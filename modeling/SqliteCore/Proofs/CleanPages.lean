import SqliteCore.Proofs.PageHash
import SqliteCore.Proofs.Spills

/-!
# `SqliteCore.Proofs.CleanPages`: a page made clean is in the database file

`pager_write_pagelist` and `pagerStress` exist to make dirty pages clean by writing
them out (`pager-imp.c:20-22`, `121-131`). This module states that as coherence of
the page cache with the database file: a page is `OnDisk` when the file holds, at
the page's offset, the image the codec makes of the page as the cache holds it.

* `pagerWritePagelist_clean`: after `pager_write_pagelist` returns `SQLITE_OK` on a
  list of distinct pages, the list comes back in place, every page stamped with
  the hash of its image, and every page within `dbSize` and not marked
  `PGHDR_DONT_WRITE` on disk.
* `pagerStress_clean_onDisk`: a page that a spill in rollback mode made clean is on
  disk, unless it was not to be written, and stays so through every later run of
  spills of other pages, whatever their collaborators and the VFS do.
-/

set_option autoImplicit false

namespace SqliteCore

/-- The database file holds `pg`: the page of the file at `pg`'s offset is what the
codec makes of `pg`'s image, as the write of line 191 would put it there. -/
def OnDisk (E : WriteEnv) (q : Pager) (pg : PgHdr) : Prop :=
  ∃ data, q.fd = some data ∧
    codec2 E.xCodec pg.pData pg.pgno 6 = some (readPage data q.pageSize (pg.pgno - 1).toNat)

/-- Distinct page numbers have distinct offsets: `pgno-1` wraps in `u32`, a bijection. -/
theorem Pgno.sub_one_inj {a b : Pgno} (h : (a - 1).toNat = (b - 1).toNat) : a = b := by
  have h1 : a - 1 = b - 1 := UInt32.toNat.inj h
  rw [UInt32.sub_def, UInt32.sub_def] at h1
  have h2 := sub_left_inj.1 (congrArg UInt32.toBitVec h1)
  cases a; cases b; cases h2; rfl

section
variable {E : WriteEnv}

/-- `OnDisk` reads only the file and the page size of the pager. -/
theorem OnDisk.congr {q q' : Pager} {x : PgHdr} (h : OnDisk E q x) (hfd : q'.fd = q.fd)
    (hps : q'.pageSize = q.pageSize) : OnDisk E q' x := by
  rw [OnDisk, hfd, hps]; exact h

/-- A write of lines 188-200, whatever the VFS reports, keeps on disk every page of
another number. -/
theorem OnDisk.pagerStorePage {q : Pager} {x : PgHdr} (h : OnDisk E q x) (r : WriteResult) (pgno : Pgno)
    (d : List UInt8) (hne : x.pgno ≠ pgno) : OnDisk E (SqliteCore.pagerStorePage r q pgno d).2 x := by
  obtain ⟨data, hfd, hx⟩ := h
  obtain ⟨d', h1, h2⟩ := pagerStorePage_readPage_of_ne r q pgno d hfd
  exact ⟨d', h1, by rw [pagerStorePage_pageSize, h2 _ fun h => hne (Pgno.sub_one_inj h)]; exact hx⟩

/-- A write of lines 188-200 that succeeds with a whole page puts the page on disk. -/
theorem pagerStorePage_onDisk {q : Pager} {pg : PgHdr} {pgno : Pgno} {d data : List UInt8}
    (hfd : q.fd = some data) (hpg : pg.pgno = pgno) (hd : codec2 E.xCodec pg.pData pgno 6 = some d)
    (hlen : d.length = q.pageSize) : OnDisk E (pagerStorePage .ok q pgno d).2 pg := by
  subst hpg
  refine ⟨writeAt data (pageOffset q pg.pgno) d, ?_, ?_⟩
  · simp [pagerStorePage, sqlite3OsWrite, hfd, List.take_of_length_le (Nat.le_of_eq hlen)]
  · rw [hd, pagerStorePage_pageSize, pageOffset, readPage_writeAt _ _ _ _ hlen]
    simp [PageStore.write]

/-- The loop, whatever the VFS reports, keeps on disk every page whose number is not
in the list. -/
theorem writeLoop_onDisk_of_not_mem (k : Nat) (p : Pager) (L : List PgHdr) {x : PgHdr} (hx : OnDisk E p x)
    (hL : ∀ pg ∈ L, pg.pgno ≠ x.pgno) : OnDisk E (writeLoop E k p L).pager x := by
  induction k, p, L using writeLoop.induct E with
  | case1 => exact hx
  | case2 k p pg rest hw pg1 hd => simpa [writeLoop, hw, hd] using hx
  | case3 k p pg rest hw pg1 d hd s hs ih =>
    simp only [s] at hs ih
    simpa [writeLoop, hw, hd, hs] using
      ih (hx.pagerStorePage _ _ _ (hL pg (List.mem_cons_self _ _)).symm) fun y hy => hL y (List.mem_cons_of_mem _ hy)
  | case4 k p pg rest hw pg1 d hd s hs =>
    simp only [s] at hs
    simpa [writeLoop, hw, hd, hs] using hx.pagerStorePage _ _ _ (hL pg (List.mem_cons_self _ _)).symm
  | case5 k p pg rest hw ih =>
    simpa [writeLoop, hw] using ih hx fun y hy => hL y (List.mem_cons_of_mem _ hy)

/-- A loop over an open file that returns `SQLITE_OK`, on whole page images of
distinct pages: every page it wrote is on disk afterwards, as the list holds it. -/
theorem writeLoop_onDisk (sz : Nat) (hE : E.KeepsPageSize sz) (k : Nat) (p : Pager) (L : List PgHdr)
    (hps : p.pageSize = sz) (hfd : ∃ data, p.fd = some data) (himg : ∀ pg ∈ L, pg.pData.length = sz)
    (hnd : (L.map PgHdr.pgno).Nodup) (hok : (writeLoop E k p L).rc = SQLITE_OK) :
    ∀ pg ∈ (writeLoop E k p L).pages, pageWritten p pg = true → OnDisk E (writeLoop E k p L).pager pg := by
  induction k, p, L using writeLoop.induct E with
  | case1 => simp [writeLoop]
  | case2 k p pg rest hw pg1 hd => simp [writeLoop, hw, hd, SQLITE_NOMEM, SQLITE_OK] at hok
  | case3 k p pg rest hw pg1 d hd s hs ih =>
    simp only [s] at hs ih
    obtain ⟨data, hfd⟩ := hfd
    rw [List.map_cons, List.nodup_cons] at hnd
    have hx : E.xWrite k = .ok := sqlite3OsWrite_fst_eq_ok.1 hs
    have hlen : d.length = sz := hE.image (himg pg (List.mem_cons_self _ _)) hd
    have hrest := ih (by simpa using hps)
      ⟨writeAt data (pageOffset p pg.pgno) (d.take p.pageSize), by simp [pagerStorePage, sqlite3OsWrite, hx, hfd]⟩
      (fun y hy => himg y (List.mem_cons_of_mem _ hy)) hnd.2
    simp only [writeLoop, hw, hd, hs, if_true, List.mem_cons] at hok hrest ⊢
    rintro x (rfl | hxm) hxw
    · have e : (pagerSetPagehash p pg1).pgno = pg.pgno := by simp [pagerSetPagehash, pg1]
      have h1 := pagerStorePage_onDisk hfd e hd (hlen.trans hps.symm)
      rw [← hx] at h1
      refine writeLoop_onDisk_of_not_mem _ _ _ h1 fun y hy heq => hnd.1 ?_
      rw [← e, ← heq]
      exact List.mem_map_of_mem PgHdr.pgno hy
    · exact hrest hok x hxm (by simpa using hxw)
  | case4 k p pg rest hw pg1 d hd s hs =>
    simp only [s] at hs
    simp [writeLoop, hw, hd, hs] at hok
  | case5 k p pg rest hw ih =>
    rw [List.map_cons, List.nodup_cons] at hnd
    simp only [writeLoop, hw, Bool.false_eq_true, if_false, List.mem_cons] at hok ⊢
    rintro x (rfl | hxm) hxw
    · exact absurd hxw hw
    · exact ih hps hfd (fun y hy => himg y (List.mem_cons_of_mem _ hy)) hnd.2 hok x hxm hxw

end

/-! ### `pager_write_pagelist` -/

/-- A call of lines 137-217 that returns `SQLITE_OK` ran the loop on an open file:
the file it was given, or the empty temporary file it opened. -/
theorem pagerWritePagelist_of_ok {E : WriteEnv} {p : Pager} {L : List PgHdr} {o : WriteOut}
    (h : pagerWritePagelist E p L = some o) (hok : o.rc = SQLITE_OK) :
    ∃ data hs hint, (p.fd = some data ∨ (p.fd = none ∧ data = [])) ∧
      o = { writeLoop E 0 { p with fd := some data, dbHintSize := hs } L with
            io := hint ++ (writeLoop E 0 { p with fd := some data, dbHintSize := hs } L).io } := by
  cases hfd : p.fd with
  | some data =>
    obtain ⟨hs, hint, -, rfl⟩ := pagerWritePagelist_of_fd h hfd
    refine ⟨data, hs, hint, Or.inl rfl, ?_⟩
    rw [← hfd]
  | none =>
    unfold pagerWritePagelist at h
    by_cases hot : E.pagerOpentemp = SQLITE_OK
    · simp only [isOpen, hfd, Option.isSome_none, Bool.false_eq_true, if_false, pagerOpentemp, hot,
        if_true] at h
      obtain ⟨⟨q, hint⟩, hq, rfl⟩ := Option.map_eq_some'.1 h
      obtain ⟨⟨hs, rfl⟩, -⟩ := pagerSizeHint_eq hq
      exact ⟨[], hs, hint, Or.inr ⟨rfl, rfl⟩, rfl⟩
    · simp only [isOpen, hfd, Option.isSome_none, Bool.false_eq_true, if_false, pagerOpentemp, hot,
        Option.some.injEq] at h
      rw [← h] at hok
      exact absurd hok hot

/-- A call that returns `SQLITE_OK`, on whole page images of distinct pages: every
page it wrote is on disk afterwards. -/
theorem pagerWritePagelist_onDisk {E : WriteEnv} {p : Pager} {L : List PgHdr} {o : WriteOut}
    (h : pagerWritePagelist E p L = some o) (hok : o.rc = SQLITE_OK) (hE : E.KeepsPageSize p.pageSize)
    (himg : ∀ pg ∈ L, pg.pData.length = p.pageSize) (hnd : (L.map PgHdr.pgno).Nodup) :
    ∀ pg ∈ o.pages, pageWritten p pg = true → OnDisk E o.pager pg := by
  obtain ⟨data, hs, hint, -, rfl⟩ := pagerWritePagelist_of_ok h hok
  exact writeLoop_onDisk p.pageSize hE 0 _ L rfl ⟨data, rfl⟩ himg hnd hok

/-- For every list of pages with distinct numbers and whole page images, with a codec
and a change-counter stamp that keep the page size: when `pager_write_pagelist`
returns `SQLITE_OK`, it has given the list back in place (each page with its number,
flags and link, in order), stamped every page with the hash of its image (line 210),
and left every page within `dbSize` and not marked `PGHDR_DONT_WRITE` on disk: the
file holds, at the page's offset, the codec's image of the page as the list now
holds it, page 1 with its change counter. A temporary file the call opened
included. -/
theorem pagerWritePagelist_clean (E : WriteEnv) (p : Pager) (L : List PgHdr) (hE : E.KeepsPageSize p.pageSize)
    (himg : ∀ pg ∈ L, pg.pData.length = p.pageSize) (hnd : (L.map PgHdr.pgno).Nodup) (o : WriteOut)
    (ho : pagerWritePagelist E p L = some o) (hok : o.rc = SQLITE_OK) :
    o.pages.map (fun pg => (pg.pgno, pg.flags, pg.pDirty)) = L.map (fun pg => (pg.pgno, pg.flags, pg.pDirty)) ∧
      (∀ pg ∈ o.pages, PageHashed p pg) ∧ ∀ pg ∈ o.pages, pageWritten p pg = true → OnDisk E o.pager pg := by
  refine ⟨?_, ?_, pagerWritePagelist_onDisk ho hok hE himg hnd⟩ <;>
    obtain ⟨data, hs, hint, -, rfl⟩ := pagerWritePagelist_of_ok ho hok
  exacts [writeLoop_pages_key E 0 _ L, writeLoop_pageHash E 0 _ L hok]

/-- Pages 1 and 2 written to a new, empty database file. -/
theorem pagerWritePagelist_clean_pages12 :
    ∃ (p : Pager) (L : List PgHdr) (o : WriteOut), WriteEnv.allOk.KeepsPageSize p.pageSize ∧
      (∀ pg ∈ L, pg.pData.length = p.pageSize) ∧ (L.map PgHdr.pgno).Nodup ∧
      pagerWritePagelist WriteEnv.allOk p L = some o ∧ o.rc = SQLITE_OK ∧
      o.pages.map (fun pg => (pg.pgno, pg.flags, pg.pDirty)) = L.map (fun pg => (pg.pgno, pg.flags, pg.pDirty)) ∧
      (∀ pg ∈ o.pages, PageHashed p pg) ∧ ∀ pg ∈ o.pages, pageWritten p pg = true → OnDisk WriteEnv.allOk o.pager pg := by
  let p : Pager :=
    { Pager.blank with
      eState := .WRITER_DBMOD, eLock := EXCLUSIVE_LOCK, dbSize := 2, dbHintSize := 2, fd := some [] }
  let L : List PgHdr :=
    [⟨1, ⟨true, false, false⟩, List.replicate 512 7, some 2, 0⟩, ⟨2, ⟨true, false, false⟩, List.replicate 512 9, none, 0⟩]
  have hE := WriteEnv.allOk_keepsPageSize p.pageSize
  have himg : ∀ x ∈ L, x.pData.length = p.pageSize := by
    intro x hx
    simp only [L, List.mem_cons, List.mem_singleton, List.not_mem_nil, or_false] at hx
    rcases hx with rfl | rfl <;> exact List.length_replicate 512 _
  have hnd : (L.map PgHdr.pgno).Nodup := by decide
  let o := (pagerWritePagelist WriteEnv.allOk p L).get (pagerWritePagelist_isSome _ p _ _)
  have ho : pagerWritePagelist WriteEnv.allOk p L = some o := (Option.some_get _).symm
  have hok : o.rc = SQLITE_OK := rfl
  exact ⟨p, L, o, hE, himg, hnd, ho, hok, pagerWritePagelist_clean _ p L hE himg hnd o ho hok⟩

/-! ### Spills -/

section
variable {σ : Type} {E : StressEnv σ} {p : Pager} {pg : PgHdr} {w : σ} {o : StressOut σ}

/-- `syncJournal` leaves `PGHDR_DONT_WRITE` as it was. -/
@[simp] theorem SyncResult.page_dontWrite (s : SyncResult σ) (x : PgHdr) :
    (s.page x).flags.dontWrite = x.flags.dontWrite := by
  unfold SyncResult.page; split <;> rfl

/-- A run of lines 64-92 gives back the page with its number. -/
theorem SpillRun.page_pgno (h : SpillRun E p pg w o) : o.page.pgno = pg.pgno := by
  cases h with
  | write _ _ _ _ _ _ hw => exact (pagerWritePagelist_single hw).1
  | syncWrite _ _ _ _ _ _ _ hw => rw [(pagerWritePagelist_single hw).1, SyncResult.page_pgno]
  | syncFails => exact SyncResult.page_pgno _ _
  | _ => rfl

/-- A spill gives back the page it was called with, under the same number. -/
theorem pagerStress_page_pgno (h : pagerStress E p pg w = some o) : o.page.pgno = pg.pgno := by
  by_cases hr : SpillRefused p pg
  · rw [pagerStress_of_refused E w hr] at h; cases h; rfl
  obtain ⟨o', hrun, hps⟩ := pagerStress_run E w hr
  rw [hps] at h; cases h
  have : (stressFinish o').page.pgno = o'.page.pgno := by unfold stressFinish; split <;> rfl
  exact this.trans hrun.page_pgno

/-- `pager_write_pagelist` on one page, returning `SQLITE_OK` on a whole image: the
page is on disk afterwards, if it is to be written. -/
theorem pagerWritePagelist_single_onDisk {W : WriteEnv} {q : Pager} {x : PgHdr} {ow : WriteOut}
    (h : pagerWritePagelist W q [x] = some ow) (hok : ow.rc = SQLITE_OK) (hE : W.KeepsPageSize q.pageSize)
    (himg : x.pData.length = q.pageSize) (hw : pageWritten q x = true) :
    OnDisk W ow.pager (ow.pages.headD x) := by
  obtain ⟨hn, hf, -⟩ := pagerWritePagelist_single h
  have hlen : ow.pages.length = 1 := by
    obtain ⟨data, hs, hint, -, rfl⟩ := pagerWritePagelist_of_ok h hok
    simpa using congrArg List.length (writeLoop_pages_key W 0 { q with fd := some data, dbHintSize := hs } [x])
  obtain ⟨y, hy⟩ := List.length_eq_one.1 hlen
  simp only [hy, List.headD_cons] at hn hf ⊢
  refine pagerWritePagelist_onDisk h hok hE (by simpa using himg) (by simp) y (by simp [hy]) ?_
  simpa [pageWritten, hn, hf] using hw

/-- A spill in rollback mode that made a dirty page clean, on a whole image with a
codec and change-counter stamp that keep the page size: the page is on disk, as the
cache now holds it, unless it was not to be written (beyond `dbSize` or marked
`PGHDR_DONT_WRITE`). -/
theorem pagerStress_onDisk (h : pagerStress E p pg w = some o) (hwal : pagerUseWal p = false)
    (hdirty : pg.flags.dirty = true) (hclean : o.page.flags.dirty = false) (hE : E.io.KeepsPageSize p.pageSize)
    (himg : pg.pData.length = p.pageSize) : pageWritten p pg = false ∨ OnDisk E.io o.pager o.page := by
  by_cases hr : SpillRefused p pg
  · rw [pagerStress_of_refused E w hr] at h; cases h; simp [hdirty] at hclean
  obtain ⟨o', hrun, hps⟩ := pagerStress_run E w hr
  rw [hps] at h; cases h
  by_cases hok : o'.rc = SQLITE_OK
  swap
  · have hpage : (stressFinish o').page = o'.page := by simp [stressFinish, hok]
    rw [hpage, hrun.page_dirty] at hclean
    simp [hdirty] at hclean
  cases hpw : pageWritten p pg
  · exact Or.inl rfl
  refine Or.inr ?_
  have hfin : (stressFinish o').page = sqlite3PcacheMakeClean o'.page := by simp [stressFinish, hok]
  rw [hfin]
  have hw : OnDisk E.io o'.pager o'.page := by
    cases hrun with
    | subjournalFails hw | walFrames hw => simp [pagerUseWal] at hw hwal; simp [hw] at hwal
    | journalFails _ _ hj => exact absurd hok hj
    | syncFails _ _ _ _ _ hs => exact absurd hok hs
    | write _ _ _ _ _ ow hw => exact pagerWritePagelist_single_onDisk hw hok hE himg hpw
    | syncWrite _ _ w' _ _ _ ow hw =>
      exact pagerWritePagelist_single_onDisk hw hok hE (by simpa using himg) (by simpa [pageWritten] using hpw)
  exact hw.congr (by rw [stressFinish_pager, pagerError_fd]) (by rw [stressFinish_pager, pagerError_pageSize])

/-- A page on disk stays on disk through every run of spills of other pages,
whatever their collaborators and the VFS do. -/
theorem stressRun_onDisk_of_not_mem {W : WriteEnv} {x : PgHdr} (reqs : List (StressEnv σ × PgHdr))
    (hreq : ∀ r ∈ reqs, r.2.pgno ≠ x.pgno) (p : Pager) (w : σ) (hx : OnDisk W p x) (q : Pager) (w' : σ)
    (h : stressRun p w reqs = some (q, w')) : OnDisk W q x := by
  refine stressRun_preserves (fun q => OnDisk W q x) reqs ?_ reqs p w q w' (fun _ h => h) hx h
  rintro E' y q w o hr ⟨data, hfd, hxd⟩ ho
  obtain ⟨d', h1, h2⟩ := pagerStress_readPage_of_ne ho hfd
  exact ⟨d', h1, by rw [pagerStress_pageSize ho, h2 _ fun h => hreq _ hr (Pgno.sub_one_inj h).symm]; exact hxd⟩

/-- For every dirty page that a spill in rollback mode makes clean, on a whole image
with a codec and change-counter stamp that keep the page size, and every later run
of spills of other pages, whatever their collaborators and the VFS do: unless the
page was not to be written (beyond `dbSize` or marked `PGHDR_DONT_WRITE`), the
database file holds at the page's offset, after the run, the codec's image of the page
as the cache holds it: the clean page and the file agree. -/
theorem pagerStress_clean_onDisk (E : StressEnv σ) (p : Pager) (pg : PgHdr) (w : σ) (o : StressOut σ)
    (hs : pagerStress E p pg w = some o) (hwal : pagerUseWal p = false) (hdirty : pg.flags.dirty = true)
    (hclean : o.page.flags.dirty = false) (hE : E.io.KeepsPageSize p.pageSize)
    (himg : pg.pData.length = p.pageSize) (post : List (StressEnv σ × PgHdr))
    (hpost : ∀ r ∈ post, r.2.pgno ≠ pg.pgno) (q : Pager) (w' : σ)
    (h : stressRun o.pager o.world post = some (q, w')) :
    pageWritten p pg = false ∨ OnDisk E.io q o.page := by
  refine (pagerStress_onDisk hs hwal hdirty hclean hE himg).imp_right fun hd => ?_
  exact stressRun_onDisk_of_not_mem post (by rwa [pagerStress_page_pgno hs]) _ _ hd q w' h

end

/-- Page 2 spilled from a pager in `WRITER_DBMOD`, then page 1 spilled. -/
theorem pagerStress_clean_onDisk_page2 :
    ∃ (E : StressEnv Unit) (p : Pager) (pg : PgHdr) (o : StressOut Unit) (post : List (StressEnv Unit × PgHdr))
      (q : Pager), pagerStress E p pg () = some o ∧ pagerUseWal p = false ∧ pg.flags.dirty = true ∧
      o.page.flags.dirty = false ∧ E.io.KeepsPageSize p.pageSize ∧ pg.pData.length = p.pageSize ∧
      (∀ r ∈ post, r.2.pgno ≠ pg.pgno) ∧ stressRun o.pager o.world post = some (q, ()) ∧
      (pageWritten p pg = false ∨ OnDisk E.io q o.page) := by
  let E := StressEnv.allOk WriteEnv.allOk
  let p : Pager :=
    { Pager.blank with
      eState := .WRITER_DBMOD, eLock := EXCLUSIVE_LOCK, dbSize := 2, dbFileSize := 2, dbHintSize := 2,
      fd := some [] }
  let pg : PgHdr := ⟨2, ⟨true, false, false⟩, List.replicate 512 9, none, 0⟩
  let post : List (StressEnv Unit × PgHdr) := [(E, ⟨1, ⟨true, false, false⟩, List.replicate 512 7, none, 0⟩)]
  let o := (pagerStress E p pg ()).get (pagerStress_isSome E p pg ())
  have ho : pagerStress E p pg () = some o := (Option.some_get _).symm
  have hclean : o.page.flags.dirty = false := rfl
  have hE := WriteEnv.allOk_keepsPageSize p.pageSize
  have himg : pg.pData.length = p.pageSize := List.length_replicate 512 9
  have hpost : ∀ r ∈ post, r.2.pgno ≠ pg.pgno := by decide
  obtain ⟨⟨q, ⟨⟩⟩, h⟩ := Option.isSome_iff_exists.1 (stressRun_isSome post o.pager o.world)
  exact ⟨E, p, pg, o, post, q, ho, rfl, rfl, hclean, hE, himg, hpost, h,
    pagerStress_clean_onDisk E p pg () o ho rfl rfl hclean hE himg post hpost q () h⟩

end SqliteCore
