import SqliteCore.Pager.Stress
import SqliteCore.Proofs.WriteLoop

/-!
# `SqliteCore.Proofs.Stress`: the outcomes of `pagerStress`

`SpillRun` lists every way lines 64-92 of `pagerStress` can go once the spill is
allowed, with what each leaves; `spillBody_run` shows that the model takes one of
them. Every property of a spill below is a case analysis over `SpillRun`.

The collaborators are arbitrary; where a property needs more of them, it names the
part of their contract it uses: `SyncJournalContract` (what a successful
`syncJournal` leaves) and `SyncJournalMovesState` (which state changes
`syncJournal` may make).

* `pagerStress_writes_only_synced`: in rollback mode, from a pager that keeps its
  state invariants (`PagerInvariant`), every call of `pager_write_pagelist` meets
  the `assert`s on entry and at line 181, on the one page, its `PGHDR_NEED_SYNC`
  clear and its `pDirty` `NULL`. In WAL mode neither `syncJournal` nor
  `pager_write_pagelist` is called and the file is untouched.
* `pagerStress_outcomes`: every spill is refused (`StressRefused`), goes out
  (`StressSpilled`: every sub-step of `spillSteps` ran on the page and returned
  `SQLITE_OK`, then the page was made clean once) or fails (`StressFailed`: the
  sub-steps ran in order up to the failing one, the last call), and `eState`
  changes only from `WRITER_CACHEMOD` to `WRITER_DBMOD` or to `ERROR`.
* `pagerStress_syncJournal`: when `syncJournal` is called, and that it is called
  at most once. `pagerStress_nosync_syncJournal` reads it for a pager with
  `SPILLFLAG_NOSYNC` set, which refuses a page that needs a sync and still syncs
  the journal in `WRITER_CACHEMOD`; `pagerStress_syncs_under_nosync` gives such a
  pager, against the comment on the flag (part 2, lines 520-524).
* `pagerStress_errorLatched`: every spill keeps the pager in `ERROR` exactly when
  it has latched an error code (`ErrorLatched`).
-/

set_option autoImplicit false

namespace SqliteCore

/-- Whether a call is `syncJournal`. -/
def StressCall.isSyncJournal : StressCall → Bool
  | .syncJournal _ _ => true
  | _ => false

/-- Whether a call is `pager_write_pagelist`. -/
def StressCall.isWritePagelist : StressCall → Bool
  | .pagerWritePagelist _ _ _ => true
  | _ => false

/-- The sub-steps of a spill: which collaborator a call is, without its arguments. -/
inductive StressStep
  | journalCreate | syncJournal | subjournal | walFrames | writePagelist | makeClean
  deriving DecidableEq, Repr

/-- The sub-step a call makes. -/
def StressCall.step : StressCall → StressStep
  | .sqlite3JournalCreate _ => .journalCreate
  | .syncJournal _ _ => .syncJournal
  | .subjournalPageIfRequired _ _ => .subjournal
  | .pagerWalFrames _ _ => .walFrames
  | .pagerWritePagelist _ _ _ => .writePagelist
  | .sqlite3PcacheMakeClean => .makeClean

/-- A call that takes a page gets `pg`, with its number and its image: the
sub-journal write and the WAL frame get the page, `pager_write_pagelist` the list of
the page alone. -/
def StressCall.OnPage (pg : PgHdr) : StressCall → Prop
  | .subjournalPageIfRequired x _ | .pagerWalFrames x _ => x.pgno = pg.pgno ∧ x.pData = pg.pData
  | .pagerWritePagelist _ l _ => ∃ x, l = [x] ∧ x.pgno = pg.pgno ∧ x.pData = pg.pData
  | _ => True

section
variable {σ : Type}

/-- The sub-steps that lines 64-92 take, in order, when each succeeds: in WAL mode
the sub-journal write and the WAL frame (lines 66-71); in rollback mode the journal
creation of a batch-atomic-write build on a real file (lines 75-80), the journal
sync when the page needs one or the pager is still in `WRITER_CACHEMOD` (lines
82-86), and `pager_write_pagelist` (line 89). -/
def spillSteps (E : StressEnv σ) (p : Pager) (pg : PgHdr) : List StressStep :=
  if pagerUseWal p then [.subjournal, .walFrames]
  else (if E.batchAtomicWrite = true ∧ p.tempFile = false then [.journalCreate] else []) ++
    (if pg.flags.needSync = true ∨ p.eState = .WRITER_CACHEMOD then [.syncJournal] else []) ++
    [.writePagelist]

/-! ### The runs of a spill -/

/-- Lines 75-80 let the rollback branch go on, after the calls `pre` and with the
world `w'`: a batch-atomic-write build has created the journal, or needs not. -/
def JournalReady (E : StressEnv σ) (p : Pager) (w : σ) (pre : List StressCall) (w' : σ) : Prop :=
  (¬(E.batchAtomicWrite = true ∧ p.tempFile = false) ∧ pre = [] ∧ w' = w) ∨
  (E.batchAtomicWrite = true ∧ p.tempFile = false ∧ E.sqlite3JournalCreate w = (SQLITE_OK, w') ∧
    pre = [.sqlite3JournalCreate SQLITE_OK])

/-- Every way lines 64-92 can go for the pager `p` and the page `pg` that line 65
leaves, with the result code, pager, page, world and calls of each. -/
inductive SpillRun (E : StressEnv σ) (p : Pager) (pg : PgHdr) (w : σ) : StressOut σ → Prop
  /-- WAL: the sub-journal write fails. -/
  | subjournalFails (hwal : pagerUseWal p = true)
      (hs : (E.subjournalPageIfRequired p pg w).1 ≠ SQLITE_OK) :
      SpillRun E p pg w ⟨(E.subjournalPageIfRequired p pg w).1, p, pg, (E.subjournalPageIfRequired p pg w).2,
        [.subjournalPageIfRequired pg (E.subjournalPageIfRequired p pg w).1]⟩
  /-- WAL: the frame goes to the log, or fails. -/
  | walFrames (hwal : pagerUseWal p = true) (w' : σ)
      (hs : E.subjournalPageIfRequired p pg w = (SQLITE_OK, w')) :
      SpillRun E p pg w ⟨(E.pagerWalFrames p pg w').rc, (E.pagerWalFrames p pg w').pager p,
        (E.pagerWalFrames p pg w').page pg, (E.pagerWalFrames p pg w').world,
        [.subjournalPageIfRequired pg SQLITE_OK, .pagerWalFrames pg (E.pagerWalFrames p pg w').rc]⟩
  /-- Rollback: creating the journal fails. -/
  | journalFails (hwal : pagerUseWal p = false) (hb : E.batchAtomicWrite = true ∧ p.tempFile = false)
      (hj : (E.sqlite3JournalCreate w).1 ≠ SQLITE_OK) :
      SpillRun E p pg w ⟨(E.sqlite3JournalCreate w).1, p, pg, (E.sqlite3JournalCreate w).2,
        [.sqlite3JournalCreate (E.sqlite3JournalCreate w).1]⟩
  /-- Rollback: no sync is needed; the page is written. -/
  | write (hwal : pagerUseWal p = false) (pre : List StressCall) (w' : σ) (hready : JournalReady E p w pre w')
      (hno : ¬(pg.flags.needSync = true ∨ p.eState = .WRITER_CACHEMOD)) (ow : WriteOut)
      (hw : pagerWritePagelist E.io p [pg] = some ow) :
      SpillRun E p pg w ⟨ow.rc, ow.pager, ow.pages.headD pg, w', pre ++ [.pagerWritePagelist p [pg] ow.rc]⟩
  /-- Rollback: the journal sync fails. -/
  | syncFails (hwal : pagerUseWal p = false) (pre : List StressCall) (w' : σ)
      (hready : JournalReady E p w pre w') (hneed : pg.flags.needSync = true ∨ p.eState = .WRITER_CACHEMOD)
      (hs : (E.syncJournal p w').rc ≠ SQLITE_OK) :
      SpillRun E p pg w ⟨(E.syncJournal p w').rc, (E.syncJournal p w').pager p, (E.syncJournal p w').page pg,
        (E.syncJournal p w').world, pre ++ [.syncJournal p (E.syncJournal p w').rc]⟩
  /-- Rollback: the journal is synced; the page is written. -/
  | syncWrite (hwal : pagerUseWal p = false) (pre : List StressCall) (w' : σ)
      (hready : JournalReady E p w pre w') (hneed : pg.flags.needSync = true ∨ p.eState = .WRITER_CACHEMOD)
      (hs : (E.syncJournal p w').rc = SQLITE_OK) (ow : WriteOut)
      (hw : pagerWritePagelist E.io ((E.syncJournal p w').pager p) [(E.syncJournal p w').page pg] = some ow) :
      SpillRun E p pg w ⟨ow.rc, ow.pager, ow.pages.headD ((E.syncJournal p w').page pg),
        (E.syncJournal p w').world, pre ++ [.syncJournal p SQLITE_OK,
          .pagerWritePagelist ((E.syncJournal p w').pager p) [(E.syncJournal p w').page pg] ow.rc]⟩

/-- The write of lines 88-91 never faults. -/
theorem spillWrite_isSome (E : StressEnv σ) (p : Pager) (pg : PgHdr) (w : σ) (calls : List StressCall) :
    (spillWrite E p pg w calls).isSome := by
  simpa [spillWrite] using pagerWritePagelist_isSome E.io p pg []

/-- Lines 82-91, reached with the journal ready, take one of the rollback runs of `SpillRun`. -/
theorem spillSyncWrite_run {E : StressEnv σ} {p : Pager} {pg : PgHdr} {w w' : σ} {pre : List StressCall}
    {o : StressOut σ} (hwal : pagerUseWal p = false) (hready : JournalReady E p w pre w')
    (h : spillSyncWrite E p pg w' pre = some o) : SpillRun E p pg w o := by
  unfold spillSyncWrite spillWrite at h
  dsimp only at h
  split_ifs at h with hneed hs
  · obtain ⟨ow, hw, rfl⟩ := Option.map_eq_some'.1 h
    simpa [hs] using SpillRun.syncWrite hwal pre w' hready hneed hs ow hw
  · cases h; exact SpillRun.syncFails hwal pre w' hready hneed hs
  · obtain ⟨ow, hw, rfl⟩ := Option.map_eq_some'.1 h
    exact SpillRun.write hwal pre w' hready hneed ow hw

/-- The model of lines 64-92 takes one of the runs of `SpillRun`. -/
theorem spillBody_run {E : StressEnv σ} {p : Pager} {pg : PgHdr} {w : σ} {o : StressOut σ}
    (h : spillBody E p pg w = some o) : SpillRun E p pg w o := by
  unfold spillBody at h
  cases hwal : pagerUseWal p
  · simp only [hwal, Bool.false_eq_true, if_false, spillToDb] at h
    split_ifs at h with hb hj
    · rw [hj] at h
      exact spillSyncWrite_run hwal (Or.inr ⟨hb.1, hb.2, by rw [← hj], rfl⟩) h
    · cases h; exact SpillRun.journalFails hwal hb hj
    · exact spillSyncWrite_run hwal (Or.inl ⟨hb, rfl, rfl⟩) h
  · simp only [hwal, if_true, spillToWal, Option.some.injEq] at h
    split_ifs at h with hs
    · cases h
      have hs' : E.subjournalPageIfRequired p pg w = (SQLITE_OK, (E.subjournalPageIfRequired p pg w).2) := by
        rw [← hs]
      simpa [hs] using SpillRun.walFrames hwal _ hs'
    · cases h; exact SpillRun.subjournalFails hwal hs

/-- Lines 64-92 never fault. -/
theorem spillBody_isSome (E : StressEnv σ) (p : Pager) (pg : PgHdr) (w : σ) :
    (spillBody E p pg w).isSome := by
  unfold spillBody spillToDb spillSyncWrite
  dsimp only
  split_ifs <;> simp [spillWrite_isSome]

end

/-! ### What every run does -/

section
variable {σ : Type} {E : StressEnv σ} {p : Pager} {pg : PgHdr} {w : σ} {o : StressOut σ}

/-- Before the sync or the write there was no call, or the journal creation that succeeded. -/
theorem JournalReady.pre_eq {pre : List StressCall} {w' : σ} (h : JournalReady E p w pre w') :
    pre = [] ∨ pre = [.sqlite3JournalCreate SQLITE_OK] := by
  rcases h with ⟨-, rfl, -⟩ | ⟨-, -, -, rfl⟩
  exacts [Or.inl rfl, Or.inr rfl]

/-- The calls before a journal sync or a write are the journal creation exactly
when the build and the file need one. -/
theorem JournalReady.steps {pre : List StressCall} {w' : σ} (h : JournalReady E p w pre w') :
    pre.map StressCall.step = if E.batchAtomicWrite = true ∧ p.tempFile = false then [.journalCreate] else [] := by
  rcases h with ⟨hb, rfl, -⟩ | ⟨hb1, hb2, -, rfl⟩
  · rw [if_neg hb]; rfl
  · rw [if_pos ⟨hb1, hb2⟩]; rfl

/-- The calls before the sync or the write take no page, so the calls of a run are
on the page when those after them are. -/
theorem JournalReady.onPage_append {pre : List StressCall} {w' : σ} (h : JournalReady E p w pre w')
    {x : PgHdr} {l : List StressCall} (hl : ∀ c ∈ l, c.OnPage x) : ∀ c ∈ pre ++ l, c.OnPage x := by
  rcases h.pre_eq with rfl | rfl <;> simpa [StressCall.OnPage] using hl

/-- In a build and on a file that need the journal created, it was created. -/
theorem JournalReady.created {pre : List StressCall} {w' : σ} (h : JournalReady E p w pre w') :
    E.batchAtomicWrite = true ∧ p.tempFile = false → (E.sqlite3JournalCreate w).1 = SQLITE_OK := by
  rcases h with ⟨hb, -, -⟩ | ⟨-, -, hj, -⟩
  · exact fun h => absurd h hb
  · exact fun _ => by rw [hj]

@[simp] theorem SyncResult.page_pgno (s : SyncResult σ) (pg : PgHdr) : (s.page pg).pgno = pg.pgno := by
  unfold SyncResult.page; split <;> rfl

@[simp] theorem SyncResult.page_pDirty (s : SyncResult σ) (pg : PgHdr) : (s.page pg).pDirty = pg.pDirty := by
  unfold SyncResult.page; split <;> rfl

@[simp] theorem SyncResult.page_pData (s : SyncResult σ) (pg : PgHdr) : (s.page pg).pData = pg.pData := by
  unfold SyncResult.page; split <;> rfl

@[simp] theorem SyncResult.page_dirty (s : SyncResult σ) (pg : PgHdr) :
    (s.page pg).flags.dirty = pg.flags.dirty := by
  unfold SyncResult.page; split <;> rfl

/-- A `syncJournal` that cleared the sync flags leaves the page with `PGHDR_NEED_SYNC` clear. -/
theorem SyncResult.page_needSync {s : SyncResult σ} (h : s.clearedSync = true) (pg : PgHdr) :
    (s.page pg).flags.needSync = false := by
  simp [SyncResult.page, h, clearNeedSync]

/-- `pager_write_pagelist` gives back the one page of its list with its number, flags and link. -/
theorem pagerWritePagelist_single {E : WriteEnv} {q : Pager} {pg : PgHdr} {ow : WriteOut}
    (h : pagerWritePagelist E q [pg] = some ow) :
    (ow.pages.headD pg).pgno = pg.pgno ∧ (ow.pages.headD pg).flags = pg.flags ∧
      (ow.pages.headD pg).pDirty = pg.pDirty := by
  rcases pagerWritePagelist_cases h with ⟨-, -, rfl⟩ | ⟨fd, hs, hint, -, -, rfl⟩
  · exact ⟨rfl, rfl, rfl⟩
  · have hk := writeLoop_pages_key E 0 { q with fd := fd, dbHintSize := hs } [pg]
    revert hk
    rcases (writeLoop E 0 { q with fd := fd, dbHintSize := hs } [pg]).pages with _ | ⟨x, _ | ⟨y, ys⟩⟩
    all_goals simp

/-- Every run ends with the call whose code it returns, after calls that all
succeeded; none makes the page clean. -/
theorem SpillRun.last_call (h : SpillRun E p pg w o) :
    ∃ cs c, o.calls = cs ++ [c] ∧ (∀ c' ∈ cs, c'.rc = SQLITE_OK) ∧ c.rc = o.rc ∧
      c ≠ .sqlite3PcacheMakeClean ∧ .sqlite3PcacheMakeClean ∉ cs := by
  have hpre : ∀ {pre : List StressCall} {w' : σ}, JournalReady E p w pre w' →
      (∀ c' ∈ pre, c'.rc = SQLITE_OK) ∧ .sqlite3PcacheMakeClean ∉ pre := by
    intro pre w' hr
    rcases hr.pre_eq with rfl | rfl <;> simp [StressCall.rc]
  cases h with
  | subjournalFails => exact ⟨[], _, rfl, by simp, rfl, by simp, by simp⟩
  | walFrames => exact ⟨[_], _, rfl, by simp [StressCall.rc], rfl, by simp, by simp⟩
  | journalFails => exact ⟨[], _, rfl, by simp, rfl, by simp, by simp⟩
  | write _ pre _ hready => exact ⟨pre, _, rfl, (hpre hready).1, rfl, by simp, (hpre hready).2⟩
  | syncFails _ pre _ hready => exact ⟨pre, _, rfl, (hpre hready).1, rfl, by simp, (hpre hready).2⟩
  | syncWrite _ pre w' hready _ _ ow =>
    refine ⟨pre ++ [.syncJournal p SQLITE_OK],
      .pagerWritePagelist ((E.syncJournal p w').pager p) [(E.syncJournal p w').page pg] ow.rc, by simp,
      fun c' hc' => ?_, rfl, by simp, by simpa using (hpre hready).2⟩
    rcases List.mem_append.1 hc' with h | h
    · exact (hpre hready).1 c' h
    · rw [List.mem_singleton.1 h]; rfl

/-- Every run takes the sub-steps of `spillSteps` in order, each on the page: all
of them, or, when it fails, those up to the call whose code it returns. -/
theorem SpillRun.steps (h : SpillRun E p pg w o) :
    (o.calls.map StressCall.step = spillSteps E p pg ∨
      (o.rc ≠ SQLITE_OK ∧ o.calls.map StressCall.step <+: spillSteps E p pg)) ∧
      ∀ c ∈ o.calls, c.OnPage pg := by
  cases h with
  | subjournalFails hwal hs =>
    exact ⟨Or.inr ⟨hs, by simp [spillSteps, hwal, StressCall.step]⟩, by simp [StressCall.OnPage]⟩
  | walFrames hwal => exact ⟨Or.inl (by simp [spillSteps, hwal, StressCall.step]), by simp [StressCall.OnPage]⟩
  | journalFails hwal hb hj =>
    exact ⟨Or.inr ⟨hj, by simp [spillSteps, hwal, hb, StressCall.step]⟩, by simp [StressCall.OnPage]⟩
  | write hwal pre w' hready hno ow =>
    exact ⟨Or.inl (by simp [spillSteps, hwal, hno, hready.steps, StressCall.step]),
      hready.onPage_append (by simp [StressCall.OnPage])⟩
  | syncFails hwal pre w' hready hneed hs =>
    exact ⟨Or.inr ⟨hs, by simp [spillSteps, hwal, hneed, hready.steps, StressCall.step]⟩,
      hready.onPage_append (by simp [StressCall.OnPage])⟩
  | syncWrite hwal pre w' hready hneed hs ow =>
    exact ⟨Or.inl (by simp [spillSteps, hwal, hneed, hready.steps, StressCall.step]),
      hready.onPage_append (by simp [StressCall.OnPage])⟩

/-- A run keeps the page dirty or clean as it was. -/
theorem SpillRun.page_dirty (h : SpillRun E p pg w o) : o.page.flags.dirty = pg.flags.dirty := by
  cases h with
  | write _ _ _ _ _ _ hw => rw [(pagerWritePagelist_single hw).2.1]
  | syncWrite _ _ _ _ _ _ _ hw => rw [(pagerWritePagelist_single hw).2.1, SyncResult.page_dirty]
  | syncFails => exact SyncResult.page_dirty _ _
  | _ => rfl

end

section
variable {σ : Type}

/-- `syncJournal` moves the pager only from `WRITER_CACHEMOD` to `WRITER_DBMOD`, as the
state table of the pager has it (part 2, lines 212-238). -/
def SyncJournalMovesState (E : StressEnv σ) : Prop :=
  ∀ q w, (E.syncJournal q w).eState = q.eState ∨
    (q.eState = .WRITER_CACHEMOD ∧ (E.syncJournal q w).eState = .WRITER_DBMOD)

/-- The contract of `syncJournal`: when it returns `SQLITE_OK` it holds
`EXCLUSIVE_LOCK`, has cleared `PGHDR_NEED_SYNC` on every cached page and has left the
pager in `WRITER_DBMOD`. -/
def SyncJournalContract (E : StressEnv σ) : Prop :=
  ∀ q w, (E.syncJournal q w).rc = SQLITE_OK →
    (E.syncJournal q w).eLock = EXCLUSIVE_LOCK ∧ (E.syncJournal q w).clearedSync = true ∧
      (E.syncJournal q w).eState = .WRITER_DBMOD

end

/-- The collaborators of a spill when every call succeeds, in a build without
`SQLITE_ENABLE_BATCH_ATOMIC_WRITE`, with the VFS `io`. `syncJournal` succeeds on a
writer pager (`WRITER_CACHEMOD` or `WRITER_DBMOD`), leaving it in `WRITER_DBMOD`
holding `EXCLUSIVE_LOCK`; on any other it fails with `SQLITE_IOERR` and changes
nothing. `pagerWalFrames` logs the page as it is and counts the frame as a write.
It keeps both contracts above. -/
def StressEnv.allOk (io : WriteEnv) : StressEnv Unit :=
  ⟨false, fun w => (SQLITE_OK, w),
    fun q w => if q.eState = .WRITER_CACHEMOD ∨ q.eState = .WRITER_DBMOD then
        ⟨SQLITE_OK, .WRITER_DBMOD, EXCLUSIVE_LOCK, true, w⟩
      else ⟨SQLITE_IOERR, q.eState, q.eLock, false, w⟩,
    fun _ _ w => (SQLITE_OK, w),
    fun q pg w => ⟨SQLITE_OK, { q.aStat with write := q.aStat.write + 1 }, pg.pData, w⟩, io⟩

/-- `StressEnv.allOk` keeps the `syncJournal` contract. -/
theorem StressEnv.allOk_contract (io : WriteEnv) : SyncJournalContract (StressEnv.allOk io) := by
  intro q _ h
  by_cases hq : q.eState = .WRITER_CACHEMOD ∨ q.eState = .WRITER_DBMOD
  · simp [StressEnv.allOk, hq]
  · simp [StressEnv.allOk, hq, SQLITE_IOERR, SQLITE_OK] at h

/-- `StressEnv.allOk` moves the pager only from `WRITER_CACHEMOD` to `WRITER_DBMOD`. -/
theorem StressEnv.allOk_movesState (io : WriteEnv) : SyncJournalMovesState (StressEnv.allOk io) := by
  intro q _
  by_cases hq : q.eState = .WRITER_CACHEMOD ∨ q.eState = .WRITER_DBMOD
  · rcases hq with h | h <;> simp [StressEnv.allOk, h]
  · simp [StressEnv.allOk, hq]

/-- The documented state invariants of the pager (part 2, lines 212-238) that bear
on a dirty page `pg`: a page is dirty only in `WRITER_CACHEMOD` or `WRITER_DBMOD`,
or in a temporary pager, and a pager in `WRITER_DBMOD`, or a temporary one, holds
`EXCLUSIVE_LOCK`. -/
structure PagerInvariant (p : Pager) (pg : PgHdr) : Prop where
  dirty_state : pg.flags.dirty = true →
    p.tempFile = true ∨ p.eState = .WRITER_CACHEMOD ∨ p.eState = .WRITER_DBMOD
  exclusive : p.tempFile = true ∨ p.eState = .WRITER_DBMOD → p.eLock = EXCLUSIVE_LOCK

section
variable {σ : Type} {E : StressEnv σ} {p : Pager} {pg : PgHdr} {w : σ} {o : StressOut σ}

/-- A run changes `eState` only from `WRITER_CACHEMOD` to `WRITER_DBMOD`, through
`syncJournal`. -/
theorem SpillRun.eState (hE : SyncJournalMovesState E) (h : SpillRun E p pg w o) :
    o.pager.eState = p.eState ∨
      (p.eState = .WRITER_CACHEMOD ∧ o.pager.eState = .WRITER_DBMOD ∧
        o.calls.any StressCall.isSyncJournal = true) := by
  cases h with
  | write _ _ _ _ _ _ hw =>
    obtain ⟨_, _, _, _, _, h⟩ := pagerWritePagelist_pager_eq hw
    exact Or.inl (by rw [h])
  | syncFails _ _ w' =>
    rcases hE p w' with h | ⟨h1, h2⟩
    · exact Or.inl h
    · exact Or.inr ⟨h1, h2, by simp [StressCall.isSyncJournal]⟩
  | syncWrite _ _ w' _ _ _ _ hw =>
    obtain ⟨_, _, _, _, _, h⟩ := pagerWritePagelist_pager_eq hw
    rw [h]
    rcases hE p w' with h | ⟨h1, h2⟩
    · exact Or.inl h
    · exact Or.inr ⟨h1, h2, by simp [StressCall.isSyncJournal]⟩
  | _ => exact Or.inl rfl

/-- No run changes the error code or the page size: only `pager_error`, after the
run, latches an error. -/
theorem SpillRun.frame (h : SpillRun E p pg w o) :
    o.pager.errCode = p.errCode ∧ o.pager.pageSize = p.pageSize := by
  cases h with
  | write _ _ _ _ _ _ hw =>
    obtain ⟨_, _, _, _, _, h⟩ := pagerWritePagelist_pager_eq hw
    rw [h]; exact ⟨rfl, rfl⟩
  | syncWrite _ _ _ _ _ _ _ hw =>
    obtain ⟨_, _, _, _, _, h⟩ := pagerWritePagelist_pager_eq hw
    rw [h]; exact ⟨rfl, rfl⟩
  | _ => exact ⟨rfl, rfl⟩

/-- A run calls `syncJournal` at most once, and calls it exactly when the pager is
in rollback mode, the journal is ready, and the page needs a sync or the pager is
still in `WRITER_CACHEMOD`. -/
theorem SpillRun.syncJournal_calls (h : SpillRun E p pg w o) :
    o.calls.countP StressCall.isSyncJournal ≤ 1 ∧
      (o.calls.any StressCall.isSyncJournal = true ↔ pagerUseWal p = false ∧
        (E.batchAtomicWrite = true ∧ p.tempFile = false → (E.sqlite3JournalCreate w).1 = SQLITE_OK) ∧
        (pg.flags.needSync = true ∨ p.eState = .WRITER_CACHEMOD)) := by
  have hpre : ∀ {pre : List StressCall} {w' : σ}, JournalReady E p w pre w' →
      pre.countP StressCall.isSyncJournal = 0 ∧ pre.any StressCall.isSyncJournal = false := by
    intro pre w' hr
    rcases hr.pre_eq with rfl | rfl <;> simp [StressCall.isSyncJournal]
  cases h with
  | subjournalFails hwal => simp [StressCall.isSyncJournal, hwal]
  | walFrames hwal => simp [StressCall.isSyncJournal, hwal]
  | journalFails _ hb hj => simp [StressCall.isSyncJournal, hb, hj]
  | write hwal _ _ hready hno =>
    simp [StressCall.isSyncJournal, (hpre hready).1, (hpre hready).2, hno]
  | syncFails hwal _ _ hready hneed | syncWrite hwal _ _ hready hneed =>
    simp [StressCall.isSyncJournal, (hpre hready).1, (hpre hready).2, hwal, hneed]
    exact fun h1 h2 => hready.created ⟨h1, h2⟩

/-- In rollback mode, for a dirty page of a pager that keeps its state invariants and
a `syncJournal` that keeps its contract, every call of `pager_write_pagelist` gets
the one page, its `PGHDR_NEED_SYNC` clear and its `pDirty` null, and a pager that
meets the entry conditions of lines 141-144 and line 181. -/
theorem SpillRun.write_after_sync (h : SpillRun E p pg w o) (hE : SyncJournalContract E)
    (hwal : pagerUseWal p = false) (hinv : PagerInvariant p pg) (hdirty : pg.flags.dirty = true)
    (hnil : pg.pDirty = none) :
    ∀ q l rc, StressCall.pagerWritePagelist q l rc ∈ o.calls →
      WritePagelistEntry q l ∧ WritePagelistPage q l ∧
        ∃ pg', l = [pg'] ∧ pg'.pgno = pg.pgno ∧ pg'.flags.needSync = false ∧ pg'.pDirty = none := by
  intro q l rc hmem
  cases h with
  | subjournalFails hw | walFrames hw => simp [hw] at hwal
  | journalFails => simp at hmem
  | syncFails _ _ _ hready => rcases hready.pre_eq with rfl | rfl <;> simp at hmem
  | write _ _ _ hready hno =>
    have hql : q = p ∧ l = [pg] := by
      rcases hready.pre_eq with rfl | rfl <;> simp at hmem <;> exact ⟨hmem.1, hmem.2.1⟩
    rw [hql.1, hql.2]
    have hns : pg.flags.needSync = false := by simpa using fun h => hno (Or.inl h)
    have hst : p.tempFile = true ∨ p.eState = .WRITER_DBMOD := by
      rcases hinv.dirty_state hdirty with h | h | h
      exacts [Or.inl h, absurd (Or.inr h) hno, Or.inr h]
    exact ⟨⟨hwal, hst, hinv.exclusive hst, Or.inr ⟨pg, rfl, hnil⟩⟩,
      fun x hx _ => by rw [List.mem_singleton.1 hx]; exact hns, pg, rfl, rfl, hns, hnil⟩
  | syncWrite _ _ w' hready _ hs =>
    have hql : q = (E.syncJournal p w').pager p ∧ l = [(E.syncJournal p w').page pg] := by
      rcases hready.pre_eq with rfl | rfl <;> simp at hmem <;> exact ⟨hmem.1, hmem.2.1⟩
    rw [hql.1, hql.2]
    obtain ⟨hlock, hclr, hst⟩ := hE p w' hs
    have hns := SyncResult.page_needSync hclr pg
    exact ⟨⟨hwal, Or.inr hst, hlock, Or.inr ⟨_, rfl, by simp [hnil]⟩⟩,
      fun x hx _ => by rw [List.mem_singleton.1 hx]; exact hns, _, rfl, by simp, hns, by simp [hnil]⟩

/-- In WAL mode a run calls neither `syncJournal` nor `pager_write_pagelist`, and
leaves the database file as it was. -/
theorem SpillRun.wal_only (h : SpillRun E p pg w o) (hwal : pagerUseWal p = true) :
    (∀ c ∈ o.calls, c.isSyncJournal = false ∧ c.isWritePagelist = false) ∧ o.pager.fd = p.fd := by
  cases h with
  | subjournalFails | walFrames =>
    exact ⟨by simp [StressCall.isSyncJournal, StressCall.isWritePagelist], rfl⟩
  | journalFails hw | write hw | syncFails hw | syncWrite hw => simp [hw] at hwal

end

/-! ### `pagerStress` -/

/-- `pager_error` leaves the file alone. -/
theorem pagerError_fd (p : Pager) (rc : Nat) : (pagerError p rc).fd = p.fd := by
  unfold pagerError; split <;> rfl

/-- `pager_error` leaves the page size alone. -/
theorem pagerError_pageSize (p : Pager) (rc : Nat) : (pagerError p rc).pageSize = p.pageSize := by
  unfold pagerError; split <;> rfl

/-- `pager_error` leaves `dbFileVers` alone. -/
theorem pagerError_dbFileVers (p : Pager) (rc : Nat) : (pagerError p rc).dbFileVers = p.dbFileVers := by
  unfold pagerError; split <;> rfl

/-- `pager_error` keeps `eState` or moves it to `ERROR`. -/
theorem pagerError_eState (p : Pager) (rc : Nat) :
    (pagerError p rc).eState = p.eState ∨ (pagerError p rc).eState = .ERROR := by
  unfold pagerError; split
  exacts [Or.inr rfl, Or.inl rfl]

/-- `pager_error` latches an I/O or disk-full code: the pager goes to `ERROR` with
`errCode = rc`. -/
theorem pagerError_latched {p : Pager} {rc : Nat} (h : rc % 0x100 = SQLITE_IOERR ∨ rc % 0x100 = SQLITE_FULL) :
    (pagerError p rc).eState = .ERROR ∧ (pagerError p rc).errCode = rc := by
  simp [pagerError, h]

section
variable {σ : Type}

/-- Lines 94-101 pass the pager through `pager_error`. -/
theorem stressFinish_pager (o : StressOut σ) : (stressFinish o).pager = pagerError o.pager o.rc := by
  unfold stressFinish; split <;> rfl

/-- Lines 94-101 add `sqlite3PcacheMakeClean` to the calls exactly when the spill succeeded. -/
theorem stressFinish_calls (o : StressOut σ) :
    (stressFinish o).calls = o.calls ++ if o.rc = SQLITE_OK then [.sqlite3PcacheMakeClean] else [] := by
  unfold stressFinish; split <;> simp [*]

/-- Lines 94-101 add no call of `syncJournal`. -/
theorem stressFinish_syncJournal (o : StressOut σ) :
    (stressFinish o).calls.countP StressCall.isSyncJournal = o.calls.countP StressCall.isSyncJournal ∧
      (stressFinish o).calls.any StressCall.isSyncJournal = o.calls.any StressCall.isSyncJournal := by
  rw [stressFinish_calls]; split <;> simp [StressCall.isSyncJournal]

/-- A spill that lines 53-61 refuse returns `SQLITE_OK` and changes nothing. -/
theorem pagerStress_of_refused (E : StressEnv σ) {p : Pager} {pg : PgHdr} (w : σ) (h : SpillRefused p pg) :
    pagerStress E p pg w = some ⟨SQLITE_OK, p, pg, w, []⟩ := by
  unfold pagerStress
  rcases h with h | h
  · rw [if_pos h]
  · by_cases he : p.errCode ≠ 0
    · rw [if_pos he]
    · rw [if_neg he, if_pos h]

/-- A spill that lines 53-61 allow takes a run of lines 64-92 on the pager with the
spill counted and the page with `pDirty` cleared, then ends as lines 94-101 say. -/
theorem pagerStress_run (E : StressEnv σ) {p : Pager} {pg : PgHdr} (w : σ) (h : ¬SpillRefused p pg) :
    ∃ o, SpillRun E { p with aStat := { p.aStat with spill := p.aStat.spill + 1 } } { pg with pDirty := none } w o ∧
      pagerStress E p pg w = some (stressFinish o) := by
  simp only [SpillRefused, not_or] at h
  obtain ⟨o, ho⟩ := Option.isSome_iff_exists.1
    (spillBody_isSome E { p with aStat := { p.aStat with spill := p.aStat.spill + 1 } } { pg with pDirty := none } w)
  refine ⟨o, spillBody_run ho, ?_⟩
  rw [pagerStress, if_neg h.1, if_neg h.2, ho]
  rfl

/-! ### Safety of a spill -/

/-- In rollback mode, for a dirty page of a pager that keeps its documented state
invariants and a `syncJournal` that keeps its contract: whenever `pagerStress`
reaches `pager_write_pagelist`, it passes the one page, with `PGHDR_NEED_SYNC` clear
(the `assert` of line 90 holds, and the page's journal record is synced) and
`pDirty` null, to a rollback pager in `WRITER_DBMOD` (or a temporary one) holding
`EXCLUSIVE_LOCK`: the `assert`s of lines 141-144 and 181 hold. In WAL mode
`pagerStress` calls neither `syncJournal` nor `pager_write_pagelist` and leaves the
database file as it was. -/
theorem pagerStress_writes_only_synced (E : StressEnv σ) (p : Pager) (pg : PgHdr) (w : σ)
    (hE : SyncJournalContract E) :
    ∃ o, pagerStress E p pg w = some o ∧
      (pagerUseWal p = false → PagerInvariant p pg → pg.flags.dirty = true →
        ∀ q l rc, StressCall.pagerWritePagelist q l rc ∈ o.calls →
          WritePagelistEntry q l ∧ WritePagelistPage q l ∧
            ∃ pg', l = [pg'] ∧ pg'.pgno = pg.pgno ∧ pg'.flags.needSync = false ∧ pg'.pDirty = none) ∧
      (pagerUseWal p = true →
        (∀ c ∈ o.calls, c.isSyncJournal = false ∧ c.isWritePagelist = false) ∧ o.pager.fd = p.fd) := by
  by_cases hr : SpillRefused p pg
  · exact ⟨_, pagerStress_of_refused E w hr, fun _ _ _ _ _ _ h => by simp at h, fun _ => ⟨by simp, rfl⟩⟩
  obtain ⟨o, hrun, hps⟩ := pagerStress_run E w hr
  have hmem : ∀ c ∈ (stressFinish o).calls, c ∈ o.calls ∨ c = .sqlite3PcacheMakeClean := by
    intro c hc
    rw [stressFinish_calls] at hc
    rcases List.mem_append.1 hc with h | h
    · exact Or.inl h
    · split_ifs at h <;> simp at h; exact Or.inr h
  refine ⟨_, hps, fun hwal hinv hdirty q l rc hc => ?_, fun hwal => ?_⟩
  · rcases hmem _ hc with h | h
    · exact hrun.write_after_sync hE hwal ⟨hinv.dirty_state, hinv.exclusive⟩ hdirty rfl q l rc h
    · cases h
  · obtain ⟨hcalls, hfd⟩ := hrun.wal_only hwal
    refine ⟨fun c hc => ?_, by rw [stressFinish_pager, pagerError_fd, hfd]⟩
    rcases hmem c hc with h | rfl
    exacts [hcalls c h, ⟨rfl, rfl⟩]

end

/-- In `StressEnv.allOk`, a dirty page that needs a sync, of a rollback pager in
`WRITER_CACHEMOD` holding `RESERVED_LOCK`: the spill calls `pager_write_pagelist`,
and every such call gets the page alone, its `PGHDR_NEED_SYNC` cleared by the sync,
from a pager that meets the entry conditions. -/
theorem pagerStress_writes_only_synced_cachemod :
    ∃ (E : StressEnv Unit) (p : Pager) (pg : PgHdr), SyncJournalContract E ∧ pagerUseWal p = false ∧
      PagerInvariant p pg ∧ pg.flags.dirty = true ∧ pg.flags.needSync = true ∧
      ∃ o, pagerStress E p pg () = some o ∧ o.calls.any StressCall.isWritePagelist = true ∧
        ∀ q l rc, StressCall.pagerWritePagelist q l rc ∈ o.calls →
          WritePagelistEntry q l ∧ WritePagelistPage q l ∧
            ∃ pg', l = [pg'] ∧ pg'.pgno = pg.pgno ∧ pg'.flags.needSync = false ∧ pg'.pDirty = none := by
  let p : Pager :=
    { Pager.blank with
      eState := .WRITER_CACHEMOD, eLock := 2, dbSize := 2, dbFileSize := 1, dbHintSize := 1,
      fd := some (List.replicate 512 0) }
  let pg : PgHdr := ⟨2, ⟨true, true, false⟩, List.replicate 512 0, none, 0⟩
  let E := StressEnv.allOk WriteEnv.allOk
  have hE := StressEnv.allOk_contract WriteEnv.allOk
  have hinv : PagerInvariant p pg := ⟨fun _ => Or.inr (Or.inl rfl), fun h => by simp [p, Pager.blank] at h⟩
  obtain ⟨o, ho, hsafe, -⟩ := pagerStress_writes_only_synced E p pg () hE
  have hw : (pagerStress E p pg ()).map (fun o => o.calls.any StressCall.isWritePagelist) = some true := by
    simp only [E, p, pg]; decide
  rw [ho, Option.map_some', Option.some.injEq] at hw
  exact ⟨E, p, pg, hE, rfl, hinv, rfl, rfl, o, ho, hw, hsafe rfl hinv rfl⟩

/-! ### The three outcomes of a spill -/

section
variable {σ : Type}

/-- Outcome (1): the spill is refused. `pagerStress` returns `SQLITE_OK` and leaves
the pager (its counters included), the page and the world as they were, having
called nothing. -/
def StressRefused (p : Pager) (pg : PgHdr) (w : σ) (o : StressOut σ) : Prop :=
  SpillRefused p pg ∧ o = ⟨SQLITE_OK, p, pg, w, []⟩

/-- Outcome (2): the page went out. The calls are every sub-step of `spillSteps`
in order (the sub-journal write and the WAL frame, or the journal creation when
needed, the journal sync when required and `pager_write_pagelist`), each on the
page and each returning `SQLITE_OK`, then `sqlite3PcacheMakeClean`, once;
`pagerStress` returns `SQLITE_OK` and the page is clean. -/
structure StressSpilled (E : StressEnv σ) (p : Pager) (pg : PgHdr) (o : StressOut σ) : Prop where
  allowed : ¬SpillRefused p pg
  rc_ok : o.rc = SQLITE_OK
  steps : o.calls.map StressCall.step = spillSteps E p pg ++ [.makeClean]
  calls_ok : ∀ c ∈ o.calls, c.rc = SQLITE_OK
  on_page : ∀ c ∈ o.calls, c.OnPage pg
  page_clean : o.page.flags.dirty = false ∧ o.page.flags.needSync = false

/-- Outcome (3): a sub-step failed, and `pagerStress` returns its code. The calls
are the sub-steps of `spillSteps` in order, each on the page, up to the failing one,
which is the last: every call before it succeeded and no later sub-step ran. The
page was not made clean, and an I/O or disk-full code is latched by `pager_error`. -/
structure StressFailed (E : StressEnv σ) (p : Pager) (pg : PgHdr) (o : StressOut σ) : Prop where
  allowed : ¬SpillRefused p pg
  rc_ne : o.rc ≠ SQLITE_OK
  last_fails : ∃ cs c, o.calls = cs ++ [c] ∧ (∀ c' ∈ cs, c'.rc = SQLITE_OK) ∧ c.rc = o.rc
  steps : o.calls.map StressCall.step <+: spillSteps E p pg
  on_page : ∀ c ∈ o.calls, c.OnPage pg
  not_clean : .sqlite3PcacheMakeClean ∉ o.calls ∧ o.page.flags.dirty = pg.flags.dirty
  latched : o.rc % 0x100 = SQLITE_IOERR ∨ o.rc % 0x100 = SQLITE_FULL →
    o.pager.eState = .ERROR ∧ o.pager.errCode = o.rc

/-- With a `syncJournal` that moves the pager only from `WRITER_CACHEMOD` to
`WRITER_DBMOD`, a spill keeps `eState`, moves it from `WRITER_CACHEMOD` to
`WRITER_DBMOD` through a call of `syncJournal`, or moves it to `ERROR`. -/
theorem pagerStress_eState_step {E : StressEnv σ} {p : Pager} {pg : PgHdr} {w : σ} {o : StressOut σ}
    (hE : SyncJournalMovesState E) (h : pagerStress E p pg w = some o) :
    o.pager.eState = p.eState ∨
      (p.eState = .WRITER_CACHEMOD ∧ o.pager.eState = .WRITER_DBMOD ∧
        o.calls.any StressCall.isSyncJournal = true) ∨
      o.pager.eState = .ERROR := by
  by_cases hr : SpillRefused p pg
  · rw [pagerStress_of_refused E w hr] at h; cases h; exact Or.inl rfl
  obtain ⟨o', hrun, hps⟩ := pagerStress_run E w hr
  rw [hps] at h; cases h
  rw [stressFinish_pager, (stressFinish_syncJournal o').2]
  rcases pagerError_eState o'.pager o'.rc with h | h
  · rw [h]
    rcases hrun.eState hE with h' | h'
    exacts [Or.inl h', Or.inr (Or.inl h')]
  · exact Or.inr (Or.inr h)

/-- For every pager, page and world, with a `syncJournal` that moves the pager only
from `WRITER_CACHEMOD` to `WRITER_DBMOD`: `pagerStress` returns, refused, spilled or
failed (the three exclude each other: a refused spill is not allowed, and the other
two differ in their result code). Its `eState` stays, goes from `WRITER_CACHEMOD` to
`WRITER_DBMOD` through a call of `syncJournal`, or goes to `ERROR`. -/
theorem pagerStress_outcomes (E : StressEnv σ) (p : Pager) (pg : PgHdr) (w : σ)
    (hE : SyncJournalMovesState E) :
    ∃ o, pagerStress E p pg w = some o ∧
      (StressRefused p pg w o ∨ StressSpilled E p pg o ∨ StressFailed E p pg o) ∧
      (o.pager.eState = p.eState ∨
        (p.eState = .WRITER_CACHEMOD ∧ o.pager.eState = .WRITER_DBMOD ∧
          o.calls.any StressCall.isSyncJournal = true) ∨
        o.pager.eState = .ERROR) := by
  by_cases hr : SpillRefused p pg
  · exact ⟨_, pagerStress_of_refused E w hr, Or.inl ⟨hr, rfl⟩, Or.inl rfl⟩
  obtain ⟨o, hrun, hps⟩ := pagerStress_run E w hr
  obtain ⟨cs, c, hcalls, hcs, hc, hcne, hnc⟩ := hrun.last_call
  obtain ⟨hsteps, hpage⟩ := hrun.steps
  have hnc' : .sqlite3PcacheMakeClean ∉ o.calls := by
    rw [hcalls]; simp [hnc, Ne.symm hcne]
  refine ⟨_, hps, ?_, pagerStress_eState_step hE hps⟩
  by_cases hok : o.rc = SQLITE_OK
  · rw [stressFinish, if_pos hok]
    have hall : o.calls.map StressCall.step = spillSteps E p pg := hsteps.resolve_right fun h => h.1 hok
    refine Or.inr (Or.inl ⟨hr, hok, by rw [List.map_append, hall]; rfl, fun c' hc' => ?_, fun c' hc' => ?_,
      by simp [sqlite3PcacheMakeClean]⟩)
    · rw [hcalls] at hc'
      simp only [List.mem_append, List.mem_singleton] at hc'
      rcases hc' with (h | rfl) | rfl
      exacts [hcs c' h, hc.trans hok, rfl]
    · rcases List.mem_append.1 hc' with h | h
      · exact hpage c' h
      · rw [List.mem_singleton.1 h]; trivial
  · have hfin : stressFinish o = { o with pager := pagerError o.pager o.rc } := by
      simp [stressFinish, hok]
    rw [hfin]
    have hpre : o.calls.map StressCall.step <+: spillSteps E p pg :=
      hsteps.elim (fun e => ⟨[], by rw [List.append_nil, e]; rfl⟩) And.right
    exact Or.inr (Or.inr ⟨hr, hok, ⟨cs, c, hcalls, hcs, hc⟩, hpre, hpage, ⟨hnc', hrun.page_dirty⟩,
      pagerError_latched⟩)

end

/-- One spill of each outcome, with collaborators that keep the hypothesis: page 2
of a pager that has latched `SQLITE_IOERR` is refused; page 2 of a rollback pager
in `WRITER_CACHEMOD` goes out after the journal sync, which moves the pager to
`WRITER_DBMOD`; and through a VFS whose writes fail with `SQLITE_IOERR_WRITE`, page 2
of a pager in `WRITER_DBMOD` fails at `pager_write_pagelist`, and the pager goes to
`ERROR`. -/
theorem pagerStress_outcomes_each :
    (∃ (E : StressEnv Unit) (p : Pager) (pg : PgHdr) (o : StressOut Unit), SyncJournalMovesState E ∧
      p.errCode = SQLITE_IOERR ∧ pagerStress E p pg () = some o ∧ StressRefused p pg () o ∧
      o.pager.eState = p.eState) ∧
    (∃ (E : StressEnv Unit) (p : Pager) (pg : PgHdr) (o : StressOut Unit), SyncJournalMovesState E ∧
      p.eState = .WRITER_CACHEMOD ∧ pagerStress E p pg () = some o ∧ StressSpilled E p pg o ∧
      o.pager.eState = .WRITER_DBMOD) ∧
    (∃ (E : StressEnv Unit) (p : Pager) (pg : PgHdr) (o : StressOut Unit), SyncJournalMovesState E ∧
      p.eState = .WRITER_DBMOD ∧ pagerStress E p pg () = some o ∧ StressFailed E p pg o ∧
      o.pager.eState = .ERROR) := by
  let pg : PgHdr := ⟨2, ⟨true, false, false⟩, List.replicate 512 0, none, 0⟩
  let base : Pager :=
    { Pager.blank with
      eLock := EXCLUSIVE_LOCK, dbSize := 2, dbFileSize := 1, dbHintSize := 2, fd := some (List.replicate 512 0) }
  let E := StressEnv.allOk WriteEnv.allOk
  let E' := StressEnv.allOk WriteEnv.shortWrite
  refine ⟨?_, ?_, ?_⟩
  · let p : Pager := { base with eState := .ERROR, errCode := SQLITE_IOERR }
    have hE := StressEnv.allOk_movesState WriteEnv.allOk
    obtain ⟨o, ho, hout, hst⟩ := pagerStress_outcomes E p pg () hE
    have hr : SpillRefused p pg := by decide
    rcases hout with h | h | h
    · exact ⟨E, p, pg, o, hE, rfl, ho, h, by rw [h.2]⟩
    exacts [absurd hr h.allowed, absurd hr h.allowed]
  · let p : Pager := { base with eState := .WRITER_CACHEMOD, eLock := 2 }
    have hE := StressEnv.allOk_movesState WriteEnv.allOk
    obtain ⟨o, ho, hout, -⟩ := pagerStress_outcomes E p pg () hE
    have hrc : (pagerStress E p pg ()).map (fun o => (o.rc, o.pager.eState)) =
        some (SQLITE_OK, .WRITER_DBMOD) := rfl
    simp only [ho, Option.map_some', Option.some.injEq, Prod.mk.injEq] at hrc
    rcases hout with h | h | h
    exacts [absurd h.1 (by decide), ⟨E, p, pg, o, hE, rfl, ho, h, hrc.2⟩, absurd hrc.1 h.rc_ne]
  · let p : Pager := { base with eState := .WRITER_DBMOD }
    have hE := StressEnv.allOk_movesState WriteEnv.shortWrite
    obtain ⟨o, ho, hout, -⟩ := pagerStress_outcomes E' p pg () hE
    have hrc : (pagerStress E' p pg ()).map (fun o => (o.rc, o.pager.eState)) = some (778, .ERROR) := by
      simp only [E', p, base, pg]; decide
    simp only [ho, Option.map_some', Option.some.injEq, Prod.mk.injEq] at hrc
    rcases hout with h | h | h
    · exact absurd h.1 (by decide)
    · exact absurd (hrc.1.symm.trans h.rc_ok) (by decide)
    · exact ⟨E', p, pg, o, hE, rfl, ho, h, hrc.2⟩

/-! ### The `ERROR` state -/

/-- The pager is in `PAGER_ERROR` exactly when it has latched an error code: the
documentation of the state (part 2, line 309) requires `errCode` to be set
in it, and `pager_error` sets both at once. -/
def ErrorLatched (p : Pager) : Prop := p.eState = .ERROR ↔ p.errCode ≠ 0

instance (p : Pager) : Decidable (ErrorLatched p) := inferInstanceAs (Decidable (_ ↔ _))

/-- `pager_error` on a pager with no error, outside `ERROR`, latches both or neither. -/
theorem pagerError_errorLatched {p : Pager} (hs : p.eState ≠ .ERROR) (he : p.errCode = 0) (rc : Nat) :
    ErrorLatched (pagerError p rc) := by
  unfold pagerError ErrorLatched
  split
  · next h =>
    simp only [SQLITE_IOERR, SQLITE_FULL] at h
    exact iff_of_true rfl (show rc ≠ 0 by omega)
  · exact iff_of_false hs (not_not.2 he)

/-- With a `syncJournal` that moves the pager only from `WRITER_CACHEMOD` to
`WRITER_DBMOD`, every spill keeps `ErrorLatched`. -/
theorem pagerStress_errorLatched {σ : Type} {E : StressEnv σ} {p : Pager} {pg : PgHdr} {w : σ}
    {o : StressOut σ} (hE : SyncJournalMovesState E) (hp : ErrorLatched p) (h : pagerStress E p pg w = some o) :
    ErrorLatched o.pager := by
  by_cases hr : SpillRefused p pg
  · rw [pagerStress_of_refused E w hr] at h; cases h; exact hp
  obtain ⟨o', hrun, hps⟩ := pagerStress_run E w hr
  rw [hps] at h; cases h
  have he : p.errCode = 0 := by simp only [SpillRefused, not_or, not_not] at hr; exact hr.1
  have hs : p.eState ≠ .ERROR := fun h => (hp.1 h) he
  rw [stressFinish_pager]
  refine pagerError_errorLatched ?_ (hrun.frame.1.trans he) _
  rcases hrun.eState hE with h | ⟨-, h, -⟩ <;> rw [h]
  · exact hs
  · exact fun h => nomatch h

/-! ### `syncJournal` and `SPILLFLAG_NOSYNC` -/

section
variable {σ : Type}

/-- `pagerStress` calls `syncJournal` at most once, and calls it exactly when it does
not refuse the spill, the pager is in rollback mode, the journal is ready, and the
page needs a sync or the pager is still in `WRITER_CACHEMOD`. -/
theorem pagerStress_syncJournal (E : StressEnv σ) (p : Pager) (pg : PgHdr) (w : σ) :
    ∃ o, pagerStress E p pg w = some o ∧ o.calls.countP StressCall.isSyncJournal ≤ 1 ∧
      (o.calls.any StressCall.isSyncJournal = true ↔ ¬SpillRefused p pg ∧ pagerUseWal p = false ∧
        (E.batchAtomicWrite = true ∧ p.tempFile = false → (E.sqlite3JournalCreate w).1 = SQLITE_OK) ∧
        (pg.flags.needSync = true ∨ p.eState = .WRITER_CACHEMOD)) := by
  by_cases hr : SpillRefused p pg
  · exact ⟨_, pagerStress_of_refused E w hr, by simp, by simp [hr]⟩
  obtain ⟨o, hrun, hps⟩ := pagerStress_run E w hr
  obtain ⟨h1, h2⟩ := hrun.syncJournal_calls
  refine ⟨_, hps, by rw [(stressFinish_syncJournal o).1]; exact h1, ?_⟩
  rw [(stressFinish_syncJournal o).2, h2]
  simp only [hr, not_false_eq_true, true_and]
  rfl

/-- With `SPILLFLAG_NOSYNC` set, `pagerStress` refuses a page that needs a sync,
changing nothing and calling nothing, and calls `syncJournal` (at most once) exactly
when the pager has no error, neither `SPILLFLAG_OFF` nor `SPILLFLAG_ROLLBACK` is set,
the page needs no sync, the pager is in rollback mode and still in
`WRITER_CACHEMOD`, and the journal is ready: lines 82-83 test the state, not the
spill flags. -/
theorem pagerStress_nosync_syncJournal (E : StressEnv σ) (p : Pager) (pg : PgHdr) (w : σ)
    (hns : p.doNotSpill &&& SPILLFLAG_NOSYNC ≠ 0) :
    ∃ o, pagerStress E p pg w = some o ∧ (pg.flags.needSync = true → o = ⟨SQLITE_OK, p, pg, w, []⟩) ∧
      o.calls.countP StressCall.isSyncJournal ≤ 1 ∧
      (o.calls.any StressCall.isSyncJournal = true ↔
        p.errCode = 0 ∧ p.doNotSpill &&& (SPILLFLAG_ROLLBACK ||| SPILLFLAG_OFF) = 0 ∧
        pg.flags.needSync = false ∧ pagerUseWal p = false ∧ p.eState = .WRITER_CACHEMOD ∧
        (E.batchAtomicWrite = true ∧ p.tempFile = false → (E.sqlite3JournalCreate w).1 = SQLITE_OK)) := by
  have hdns : p.doNotSpill ≠ 0 := fun h => hns (by rw [h, Nat.zero_and])
  obtain ⟨o, ho, h1, h2⟩ := pagerStress_syncJournal E p pg w
  have hrefuse : pg.flags.needSync = true → o = ⟨SQLITE_OK, p, pg, w, []⟩ := fun hs =>
    Option.some.inj (ho.symm.trans (pagerStress_of_refused E w (Or.inr ⟨hdns, Or.inr hs⟩)))
  refine ⟨o, ho, hrefuse, h1, h2.trans ?_⟩
  simp only [SpillRefused, hdns, ne_eq, not_false_eq_true, true_and, not_or, not_not, Bool.not_eq_true]
  constructor
  · rintro ⟨⟨he, hro, hsync⟩, hwal, hjc, hneed⟩
    exact ⟨he, hro, hsync, hwal, by simpa [hsync] using hneed, hjc⟩
  · rintro ⟨he, hro, hsync, hwal, hst, hjc⟩
    exact ⟨⟨he, hro, hsync⟩, hwal, hjc, Or.inr hst⟩

end

/-- `SPILLFLAG_NOSYNC` on a rollback pager in `WRITER_CACHEMOD` inside a sector-group
write: page 2, which needs a sync, is refused; page 3, which needs none, goes out
after one call of `syncJournal`. -/
theorem pagerStress_nosync_syncJournal_sector :
    ∃ (E : StressEnv Unit) (p : Pager) (pg pg' : PgHdr), p.doNotSpill &&& SPILLFLAG_NOSYNC ≠ 0 ∧
      pg.flags.needSync = true ∧ pagerStress E p pg () = some ⟨SQLITE_OK, p, pg, (), []⟩ ∧
      pg'.flags.needSync = false ∧ ∃ o, pagerStress E p pg' () = some o ∧
        o.calls.countP StressCall.isSyncJournal ≤ 1 ∧ o.calls.any StressCall.isSyncJournal = true := by
  let p : Pager :=
    { Pager.blank with
      eState := .WRITER_CACHEMOD, eLock := 2, doNotSpill := SPILLFLAG_NOSYNC, dbSize := 3, dbFileSize := 1,
      dbHintSize := 1, fd := some (List.replicate 512 0) }
  let pg : PgHdr := ⟨2, ⟨true, true, false⟩, List.replicate 512 0, none, 0⟩
  let pg' : PgHdr := ⟨3, ⟨true, false, false⟩, List.replicate 512 0, none, 0⟩
  let E := StressEnv.allOk WriteEnv.allOk
  have hns : p.doNotSpill &&& SPILLFLAG_NOSYNC ≠ 0 := by decide
  obtain ⟨o, ho, hr, -⟩ := pagerStress_nosync_syncJournal E p pg () hns
  obtain ⟨o', ho', -, h1, h2⟩ := pagerStress_nosync_syncJournal E p pg' () hns
  exact ⟨E, p, pg, pg', hns, rfl, by rw [ho, hr rfl], rfl, o', ho', h1,
    h2.2 ⟨rfl, by decide, rfl, rfl, rfl, fun h => absurd h.1 (by decide)⟩⟩

/-- A rollback pager in `WRITER_CACHEMOD` holding `RESERVED_LOCK`, which keeps its
state invariants, in the middle of a sector-group write (`doNotSpill =
SPILLFLAG_NOSYNC`, no error), and a dirty page that needs no sync (page 2, past the
one page the file held when the transaction began): for every environment of a
build without `SQLITE_ENABLE_BATCH_ATOMIC_WRITE` and every world, `pagerStress`
calls `syncJournal`, which the comments on `SPILLFLAG_NOSYNC` (part 2, lines
520-524, and `pager-imp.c:37-40`) say a spill under this flag may not do. -/
theorem pagerStress_syncs_under_nosync :
    ∃ (p : Pager) (pg : PgHdr), p.doNotSpill = SPILLFLAG_NOSYNC ∧ p.errCode = 0 ∧ pagerUseWal p = false ∧
      p.eState = .WRITER_CACHEMOD ∧ PagerInvariant p pg ∧ pg.flags.dirty = true ∧ pg.flags.needSync = false ∧
      ∀ (σ : Type) (E : StressEnv σ) (w : σ), E.batchAtomicWrite = false →
        ∃ o, pagerStress E p pg w = some o ∧ o.calls.any StressCall.isSyncJournal = true := by
  refine ⟨{ Pager.blank with
      eState := .WRITER_CACHEMOD, eLock := 2, doNotSpill := SPILLFLAG_NOSYNC, dbSize := 2, dbFileSize := 1,
      dbHintSize := 1, fd := some (List.replicate 512 0) },
    ⟨2, ⟨true, false, false⟩, List.replicate 512 0, none, 0⟩, rfl, rfl, rfl, rfl,
    ⟨fun _ => Or.inr (Or.inl rfl), fun h => by simp [Pager.blank] at h⟩, rfl, rfl, fun σ E w hb => ?_⟩
  obtain ⟨o, ho, -, h⟩ := pagerStress_syncJournal E _ _ w
  exact ⟨o, ho, h.2 ⟨by decide, rfl, by simp [hb], Or.inr rfl⟩⟩

end SqliteCore
