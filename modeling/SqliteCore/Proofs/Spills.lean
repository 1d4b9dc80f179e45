import SqliteCore.Proofs.Stress
import SqliteCore.Proofs.FileImage

/-!
# `SqliteCore.Proofs.Spills`: the pager under a run of spills

The page cache keeps `pagerStress` as its stress callback `xStress` (part 1,
line 47). By the stress protocol of the page-cache manager, each allocation under
pressure calls it with a victim page; `stressRun` is a sequence of such calls,
each with the answers its collaborators and the VFS give at that time. The victims
are any pages, so the results hold for every choice the cache makes.

Each property below is proved for one spill and carried over the run by
`stressRun_preserves`:

* `stressRun_isSome`: no spill of a run faults.
* `stressRun_fileSizeGrowth`: whatever the VFS reports, the file never holds more
  than `dbFileSize` pages, and `dbFileSize` only grows, at most to `dbSize`.
* `stressRun_eState`: `eState` only moves from `WRITER_CACHEMOD` to `WRITER_DBMOD`,
  or to `ERROR`.
* `stressRun_errorLatched`: the pager is in `ERROR` exactly when it has latched an
  error code, before and after every run.
* `stressRun_readPage`: whatever the VFS reports, a run changes no page of the
  database file but the victims' own.
* `stressRun_dbFileVers`: when every spill's write succeeds, `dbFileVers` stays
  equal to bytes 24-39 of the file.
* `stressRun_aStat`: in a rollback pager the spill counter grows by at most one
  per request and the write counter by no more than the spill counter.
-/

set_option autoImplicit false

namespace SqliteCore

section
variable {σ : Type}

/-- Modelled from the spec (§4.4): the page-cache manager calls `xStress`, here
`pagerStress`, for each victim in turn, the world passing from one call to the
next. Each request is the environment of its call and the victim. -/
def stressRun : Pager → σ → List (StressEnv σ × PgHdr) → Option (Pager × σ)
  | p, w, [] => some (p, w)
  | p, w, (E, pg) :: rest => (pagerStress E p pg w).bind fun o => stressRun o.pager o.world rest

/-- No spill faults: a one-page list never makes `pager_write_pagelist` dereference `NULL`. -/
theorem pagerStress_isSome (E : StressEnv σ) (p : Pager) (pg : PgHdr) (w : σ) :
    (pagerStress E p pg w).isSome := by
  by_cases hr : SpillRefused p pg
  · rw [pagerStress_of_refused E w hr]; rfl
  · obtain ⟨o, -, hps⟩ := pagerStress_run E w hr
    rw [hps]; rfl

/-- No spill of a run faults. -/
theorem stressRun_isSome (reqs : List (StressEnv σ × PgHdr)) :
    ∀ (p : Pager) (w : σ), (stressRun p w reqs).isSome := by
  induction reqs with
  | nil => intro p w; rfl
  | cons r rest ih =>
    intro p w
    obtain ⟨o, ho⟩ := Option.isSome_iff_exists.1 (pagerStress_isSome r.1 p r.2 w)
    simp only [stressRun, ho, Option.some_bind]
    exact ih o.pager o.world

/-- A property of the pager that every spill of the run keeps holds after the run. -/
theorem stressRun_preserves (Inv : Pager → Prop) (reqs : List (StressEnv σ × PgHdr))
    (step : ∀ E pg q w o, (E, pg) ∈ reqs → Inv q → pagerStress E q pg w = some o → Inv o.pager) :
    ∀ (rs : List (StressEnv σ × PgHdr)) (p : Pager) (w : σ) (q : Pager) (w' : σ),
      (∀ r ∈ rs, r ∈ reqs) → Inv p → stressRun p w rs = some (q, w') → Inv q
  | [], p, w, q, w', _, hp, h => by cases h; exact hp
  | (E, pg) :: rest, p, w, q, w', hrs, hp, h => by
    simp only [stressRun] at h
    obtain ⟨o, ho, h⟩ := Option.bind_eq_some.1 h
    exact stressRun_preserves Inv reqs step rest o.pager o.world q w'
      (fun r hr => hrs r (List.mem_cons_of_mem _ hr)) (step E pg p w o (hrs _ (List.mem_cons_self _ _)) hp ho) h

/-! ### The file size -/

/-- `pager_error` keeps the growth of the file size, since it changes neither the file
nor its sizes. -/
theorem FileSizeGrowth.pagerError {p q : Pager} (h : FileSizeGrowth p q) (rc : Nat) :
    FileSizeGrowth p (SqliteCore.pagerError q rc) := by
  unfold SqliteCore.pagerError; split
  exacts [⟨h.dbSize_eq, h.bound, h.grows, h.within⟩, h]

/-- One run of lines 64-92 on a page numbered from 1, whatever the VFS reports. -/
theorem SpillRun.fileSizeGrowth {E : StressEnv σ} {p : Pager} {pg : PgHdr} {w : σ} {o : StressOut σ}
    (h : SpillRun E p pg w o) (hpg : 1 ≤ pg.pgno) (hb : FileSizeBound p) : FileSizeGrowth p o.pager := by
  have hone : ∀ x : PgHdr, x.pgno = pg.pgno → ∀ y ∈ [x], 1 ≤ y.pgno := by
    intro x hx y hy; rw [List.mem_singleton.1 hy, hx]; exact hpg
  cases h with
  | write _ _ _ _ _ _ hw => exact pagerWritePagelist_fileSizeGrowth (hone pg rfl) hb hw
  | syncWrite _ _ w' _ _ _ _ hw =>
    have h := pagerWritePagelist_fileSizeGrowth (hone _ (SyncResult.page_pgno _ _))
      (show FileSizeBound ((E.syncJournal p w').pager p) from hb) hw
    exact ⟨h.dbSize_eq, h.bound, h.grows, h.within⟩
  | _ => exact ⟨rfl, hb, Nat.le_refl _, Nat.le_max_left _ _⟩

/-- One spill of a page numbered from 1, whatever the VFS reports. -/
theorem pagerStress_fileSizeGrowth {E : StressEnv σ} {p : Pager} {pg : PgHdr} {w : σ} {o : StressOut σ}
    (hpg : 1 ≤ pg.pgno) (hb : FileSizeBound p) (h : pagerStress E p pg w = some o) :
    FileSizeGrowth p o.pager := by
  by_cases hr : SpillRefused p pg
  · rw [pagerStress_of_refused E w hr] at h; cases h; exact FileSizeGrowth.refl hb
  obtain ⟨o', hrun, hps⟩ := pagerStress_run E w hr
  rw [hps] at h; cases h
  have g := hrun.fileSizeGrowth hpg hb
  have g' : FileSizeGrowth p o'.pager := ⟨g.dbSize_eq, g.bound, g.grows, g.within⟩
  rw [stressFinish_pager]
  exact g'.pagerError _

/-- Over every run of spills of pages numbered from 1, whatever the VFS reports at
each write and however much of a failed write reaches the file: if the file holds
at most `dbFileSize` pages before the run, it holds at most the current
`dbFileSize` pages after it, and `dbFileSize` has only grown, at most to `dbSize`. -/
theorem stressRun_fileSizeGrowth (reqs : List (StressEnv σ × PgHdr)) (hpg : ∀ r ∈ reqs, 1 ≤ r.2.pgno)
    (p : Pager) (w : σ) (hb : FileSizeBound p) (q : Pager) (w' : σ) (h : stressRun p w reqs = some (q, w')) :
    FileSizeBound q ∧ p.dbFileSize ≤ q.dbFileSize ∧ q.dbFileSize.toNat ≤ max p.dbFileSize.toNat p.dbSize.toNat :=
  let g := stressRun_preserves (FileSizeGrowth p) reqs
    (fun _ _ _ _ _ hr hq ho => hq.trans (pagerStress_fileSizeGrowth (hpg _ hr) hq.bound ho))
    reqs p w q w' (fun _ h => h) (FileSizeGrowth.refl hb) h
  ⟨g.bound, g.grows, g.within⟩

/-- A rollback pager whose file holds its one page spills pages 2 and 3 of a
three-page image; the write of page 3 fails after 100 bytes. -/
theorem stressRun_fileSizeGrowth_short_write :
    ∃ (reqs : List (StressEnv Unit × PgHdr)) (p q : Pager), (∀ r ∈ reqs, 1 ≤ r.2.pgno) ∧
      FileSizeBound p ∧ stressRun p () reqs = some (q, ()) ∧ FileSizeBound q := by
  let p : Pager :=
    { Pager.blank with
      eState := .WRITER_CACHEMOD, eLock := 2, dbSize := 3, dbFileSize := 1, dbHintSize := 1,
      fd := some (List.replicate 512 0) }
  let reqs : List (StressEnv Unit × PgHdr) :=
    [(StressEnv.allOk WriteEnv.allOk, ⟨2, ⟨true, false, false⟩, List.replicate 512 0, none, 0⟩),
     (StressEnv.allOk WriteEnv.shortWrite, ⟨3, ⟨true, false, false⟩, List.replicate 512 0, none, 0⟩)]
  have hpg : ∀ r ∈ reqs, 1 ≤ r.2.pgno := by decide
  have hb : FileSizeBound p := fun data h => by
    cases h; rw [List.length_replicate]; decide
  obtain ⟨⟨q, ⟨⟩⟩, h⟩ := Option.isSome_iff_exists.1 (stressRun_isSome reqs p ())
  exact ⟨reqs, p, q, hpg, hb, h, (stressRun_fileSizeGrowth reqs hpg p () hb q () h).1⟩

/-! ### The database file -/

/-- A run of lines 64-92 changes at most the page's own page of an open database
file, whatever the collaborators and the VFS do. -/
theorem SpillRun.readPage_of_ne {E : StressEnv σ} {p : Pager} {pg : PgHdr} {w : σ} {o : StressOut σ}
    (h : SpillRun E p pg w o) {data : List UInt8} (hfd : p.fd = some data) :
    ∃ data', o.pager.fd = some data' ∧
      ∀ j, j ≠ (pg.pgno - 1).toNat → readPage data' p.pageSize j = readPage data p.pageSize j := by
  have hone : ∀ {q : Pager} {x : PgHdr} {ow : WriteOut}, pagerWritePagelist E.io q [x] = some ow →
      x.pgno = pg.pgno → q.fd = some data → q.pageSize = p.pageSize →
      ∃ data', ow.pager.fd = some data' ∧
        ∀ j, j ≠ (pg.pgno - 1).toNat → readPage data' p.pageSize j = readPage data p.pageSize j := by
    intro q x ow hw hx hq hps
    obtain ⟨d', h1, h2⟩ := pagerWritePagelist_readPage_of_not_mem hw hq
    rw [hps] at h2
    exact ⟨d', h1, fun j hj => h2 j (by simpa [hx] using fun h => hj h.symm)⟩
  cases h with
  | write _ _ _ _ _ _ hw => exact hone hw rfl hfd rfl
  | syncWrite _ _ _ _ _ _ _ hw => exact hone hw (SyncResult.page_pgno _ _) hfd rfl
  | _ => exact ⟨data, hfd, fun _ _ => rfl⟩

/-- A spill keeps the page size. -/
theorem pagerStress_pageSize {E : StressEnv σ} {p : Pager} {pg : PgHdr} {w : σ} {o : StressOut σ}
    (h : pagerStress E p pg w = some o) : o.pager.pageSize = p.pageSize := by
  by_cases hr : SpillRefused p pg
  · rw [pagerStress_of_refused E w hr] at h; cases h; rfl
  obtain ⟨o', hrun, hps⟩ := pagerStress_run E w hr
  rw [hps] at h; cases h
  rw [stressFinish_pager, pagerError_pageSize]
  exact hrun.frame.2

/-- A spill changes at most the victim's page of an open database file, whatever
the collaborators and the VFS do. -/
theorem pagerStress_readPage_of_ne {E : StressEnv σ} {p : Pager} {pg : PgHdr} {w : σ} {o : StressOut σ}
    (h : pagerStress E p pg w = some o) {data : List UInt8} (hfd : p.fd = some data) :
    ∃ data', o.pager.fd = some data' ∧
      ∀ j, j ≠ (pg.pgno - 1).toNat → readPage data' p.pageSize j = readPage data p.pageSize j := by
  by_cases hr : SpillRefused p pg
  · rw [pagerStress_of_refused E w hr] at h; cases h; exact ⟨data, hfd, fun _ _ => rfl⟩
  obtain ⟨o', hrun, hps⟩ := pagerStress_run E w hr
  rw [hps] at h; cases h
  obtain ⟨d', h1, h2⟩ := hrun.readPage_of_ne hfd
  rw [stressFinish_pager]
  exact ⟨d', (pagerError_fd _ _).trans h1, h2⟩

/-- Over every run of spills from an open database file, whatever the collaborators
and the VFS do at each spill, a failed write that reached the file included: every
page of the file that is no victim's page reads as it did before the run. -/
theorem stressRun_readPage (reqs : List (StressEnv σ × PgHdr)) (p : Pager) (w : σ) (data : List UInt8)
    (hfd : p.fd = some data) (q : Pager) (w' : σ) (h : stressRun p w reqs = some (q, w')) :
    ∃ data', q.fd = some data' ∧ ∀ j, (∀ r ∈ reqs, (r.2.pgno - 1).toNat ≠ j) →
      readPage data' p.pageSize j = readPage data p.pageSize j := by
  let Inv : Pager → Prop := fun q => q.pageSize = p.pageSize ∧ ∃ d, q.fd = some d ∧
    ∀ j, (∀ r ∈ reqs, (r.2.pgno - 1).toNat ≠ j) → readPage d p.pageSize j = readPage data p.pageSize j
  have step : ∀ E pg q w o, (E, pg) ∈ reqs → Inv q → pagerStress E q pg w = some o → Inv o.pager := by
    rintro E pg q w o hr ⟨hps, d, hq, hd⟩ ho
    obtain ⟨d', h1, h2⟩ := pagerStress_readPage_of_ne ho hq
    rw [hps] at h2
    exact ⟨(pagerStress_pageSize ho).trans hps, d', h1, fun j hj => (h2 j (hj _ hr).symm).trans (hd j hj)⟩
  exact (stressRun_preserves Inv reqs step reqs p w q w' (fun _ h => h) ⟨rfl, data, hfd, fun _ _ => rfl⟩ h).2

/-- Spills of pages 2 and 3, the second write failing after 100 bytes, leave page 1
as it was. -/
theorem stressRun_readPage_page1 :
    ∃ (reqs : List (StressEnv Unit × PgHdr)) (p q : Pager) (data : List UInt8), p.fd = some data ∧
      stressRun p () reqs = some (q, ()) ∧
      ∃ data', q.fd = some data' ∧ readPage data' p.pageSize 0 = readPage data p.pageSize 0 := by
  let p : Pager :=
    { Pager.blank with
      eState := .WRITER_CACHEMOD, eLock := 2, dbSize := 3, dbFileSize := 1, dbHintSize := 1,
      fd := some (List.replicate 512 0) }
  let reqs : List (StressEnv Unit × PgHdr) :=
    [(StressEnv.allOk WriteEnv.allOk, ⟨2, ⟨true, false, false⟩, List.replicate 512 0, none, 0⟩),
     (StressEnv.allOk WriteEnv.shortWrite, ⟨3, ⟨true, false, false⟩, List.replicate 512 0, none, 0⟩)]
  obtain ⟨⟨q, ⟨⟩⟩, h⟩ := Option.isSome_iff_exists.1 (stressRun_isSome reqs p ())
  obtain ⟨d', h1, h2⟩ := stressRun_readPage reqs p () _ rfl q () h
  exact ⟨reqs, p, q, _, rfl, h, d', h1, h2 0 (by decide)⟩

/-- A run of lines 64-92 whose write, if any, succeeds with a whole page image keeps
`dbFileVers` equal to bytes 24-39 of an open database file. -/
theorem SpillRun.dbFileVers_eq {E : StressEnv σ} {p : Pager} {pg : PgHdr} {w : σ} {o : StressOut σ}
    (h : SpillRun E p pg w o) (hE : E.io.KeepsPageSize p.pageSize) (hok : E.io.xWrite 0 = .ok)
    (hpg : pg.pData.length = p.pageSize) {data : List UInt8} (hfd : p.fd = some data)
    (hvers : p.dbFileVers = fileVers data) :
    ∃ data', o.pager.fd = some data' ∧ o.pager.dbFileVers = fileVers data' := by
  have hone : ∀ {q : Pager} {x : PgHdr} {ow : WriteOut}, pagerWritePagelist E.io q [x] = some ow →
      x.pData = pg.pData → q.fd = some data → q.dbFileVers = fileVers data → q.pageSize = p.pageSize →
      ∃ data', ow.pager.fd = some data' ∧ ow.pager.dbFileVers = fileVers data' := by
    intro q x ow hw hx hq hv hps
    refine pagerWritePagelist_fileVers hw hq hv (hps ▸ hE) ?_ fun k hk => ?_
    · intro y hy; rw [List.mem_singleton.1 hy, hx, hps]; exact hpg
    · rw [show k = 0 by simpa using hk]; exact hok
  cases h with
  | write _ _ _ _ _ _ hw => exact hone hw rfl hfd hvers rfl
  | syncWrite _ _ _ _ _ _ _ hw => exact hone hw (SyncResult.page_pData _ _) hfd hvers rfl
  | _ => exact ⟨data, hfd, hvers⟩

/-- A spill whose write, if any, succeeds with a whole page image keeps `dbFileVers`
equal to bytes 24-39 of an open database file. -/
theorem pagerStress_fileVers {E : StressEnv σ} {p : Pager} {pg : PgHdr} {w : σ} {o : StressOut σ}
    (h : pagerStress E p pg w = some o) (hE : E.io.KeepsPageSize p.pageSize) (hok : E.io.xWrite 0 = .ok)
    (hpg : pg.pData.length = p.pageSize) {data : List UInt8} (hfd : p.fd = some data)
    (hvers : p.dbFileVers = fileVers data) :
    ∃ data', o.pager.fd = some data' ∧ o.pager.dbFileVers = fileVers data' := by
  by_cases hr : SpillRefused p pg
  · rw [pagerStress_of_refused E w hr] at h; cases h; exact ⟨data, hfd, hvers⟩
  obtain ⟨o', hrun, hps⟩ := pagerStress_run E w hr
  rw [hps] at h; cases h
  obtain ⟨d', h1, h2⟩ := hrun.dbFileVers_eq hE hok hpg hfd hvers
  rw [stressFinish_pager]
  exact ⟨d', (pagerError_fd _ _).trans h1, (pagerError_dbFileVers _ _).trans h2⟩

/-- Over every run of spills from an open database file whose `dbFileVers` is bytes
24-39 of the file, in which each spill's write, if it makes one, succeeds with a whole
page image (the change-counter stamp and the codec keeping its length): `dbFileVers`
is bytes 24-39 of the file after the run. -/
theorem stressRun_dbFileVers (reqs : List (StressEnv σ × PgHdr)) (p : Pager) (w : σ)
    (hreq : ∀ r ∈ reqs,
      r.1.io.KeepsPageSize p.pageSize ∧ r.1.io.xWrite 0 = .ok ∧ r.2.pData.length = p.pageSize)
    (data : List UInt8) (hfd : p.fd = some data) (hvers : p.dbFileVers = fileVers data)
    (q : Pager) (w' : σ) (h : stressRun p w reqs = some (q, w')) :
    ∃ data', q.fd = some data' ∧ q.dbFileVers = fileVers data' := by
  let Inv : Pager → Prop := fun q =>
    q.pageSize = p.pageSize ∧ ∃ d, q.fd = some d ∧ q.dbFileVers = fileVers d
  have step : ∀ E pg q w o, (E, pg) ∈ reqs → Inv q → pagerStress E q pg w = some o → Inv o.pager := by
    rintro E pg q w o hr ⟨hps, d, hq, hv⟩ ho
    obtain ⟨hE, hok, hpg⟩ := hreq _ hr
    exact ⟨(pagerStress_pageSize ho).trans hps,
      pagerStress_fileVers ho (hps ▸ hE) hok (hps ▸ hpg) hq hv⟩
  exact (stressRun_preserves Inv reqs step reqs p w q w' (fun _ h => h) ⟨rfl, data, hfd, hvers⟩ h).2

/-- Two spills in `StressEnv.allOk`, of page 1 and page 2, on a new, empty database
file. -/
theorem stressRun_dbFileVers_page1 :
    ∃ (reqs : List (StressEnv Unit × PgHdr)) (p q : Pager) (data : List UInt8),
      (∀ r ∈ reqs,
        r.1.io.KeepsPageSize p.pageSize ∧ r.1.io.xWrite 0 = .ok ∧ r.2.pData.length = p.pageSize) ∧
      p.fd = some data ∧ p.dbFileVers = fileVers data ∧ stressRun p () reqs = some (q, ()) ∧
      ∃ data', q.fd = some data' ∧ q.dbFileVers = fileVers data' := by
  let p : Pager :=
    { Pager.blank with
      eState := .WRITER_CACHEMOD, eLock := 2, dbSize := 2, dbHintSize := 2, fd := some [] }
  let reqs : List (StressEnv Unit × PgHdr) :=
    [(StressEnv.allOk WriteEnv.allOk, ⟨1, ⟨true, false, false⟩, List.replicate 512 7, none, 0⟩),
     (StressEnv.allOk WriteEnv.allOk, ⟨2, ⟨true, false, false⟩, List.replicate 512 9, none, 0⟩)]
  have hreq : ∀ r ∈ reqs,
      r.1.io.KeepsPageSize p.pageSize ∧ r.1.io.xWrite 0 = .ok ∧ r.2.pData.length = p.pageSize := by
    intro r hr
    rcases List.mem_cons.1 hr with rfl | hr
    · exact ⟨WriteEnv.allOk_keepsPageSize _, rfl, List.length_replicate 512 7⟩
    · rw [List.mem_singleton.1 hr]
      exact ⟨WriteEnv.allOk_keepsPageSize _, rfl, List.length_replicate 512 9⟩
  have hvers : p.dbFileVers = fileVers [] := by decide
  obtain ⟨⟨q, ⟨⟩⟩, h⟩ := Option.isSome_iff_exists.1 (stressRun_isSome reqs p ())
  exact ⟨reqs, p, q, [], hreq, rfl, hvers, h, stressRun_dbFileVers reqs p () hreq [] rfl hvers q () h⟩

/-! ### The pager state -/

/-- The states a run of spills can lead from `s` to: `s` itself, `WRITER_DBMOD` from
`WRITER_CACHEMOD`, and `ERROR`. -/
def EStateReach (s s' : PagerState) : Prop :=
  s' = s ∨ (s = .WRITER_CACHEMOD ∧ s' = .WRITER_DBMOD) ∨ s' = .ERROR

/-- The moves `eState` may make compose. -/
theorem EStateReach.trans {s s' s'' : PagerState} (h1 : EStateReach s s') (h2 : EStateReach s' s'') :
    EStateReach s s'' := by
  rcases h1 with rfl | ⟨rfl, rfl⟩ | rfl <;> rcases h2 with rfl | ⟨h, rfl⟩ | rfl <;>
    simp_all [EStateReach]

/-- Over every run of spills whose `syncJournal` calls move the pager only from
`WRITER_CACHEMOD` to `WRITER_DBMOD`, `eState` ends where it began, in
`WRITER_DBMOD` from `WRITER_CACHEMOD`, or in `ERROR`. -/
theorem stressRun_eState (reqs : List (StressEnv σ × PgHdr)) (hE : ∀ r ∈ reqs, SyncJournalMovesState r.1)
    (p : Pager) (w : σ) (q : Pager) (w' : σ) (h : stressRun p w reqs = some (q, w')) :
    EStateReach p.eState q.eState :=
  stressRun_preserves (fun q => EStateReach p.eState q.eState) reqs
    (fun _ _ _ _ _ hr hq ho => hq.trans <| by
      rcases pagerStress_eState_step (hE _ hr) ho with h | ⟨h1, h2, -⟩ | h
      exacts [Or.inl h, Or.inr (Or.inl ⟨h1, h2⟩), Or.inr (Or.inr h)])
    reqs p w q w' (fun _ h => h) (Or.inl rfl) h

/-- Two spills in `StressEnv.allOk` from `WRITER_CACHEMOD`. -/
theorem stressRun_eState_cachemod :
    ∃ (reqs : List (StressEnv Unit × PgHdr)) (p q : Pager), (∀ r ∈ reqs, SyncJournalMovesState r.1) ∧
      stressRun p () reqs = some (q, ()) ∧ EStateReach p.eState q.eState := by
  let p : Pager :=
    { Pager.blank with
      eState := .WRITER_CACHEMOD, eLock := 2, dbSize := 3, dbFileSize := 1, dbHintSize := 1, fd := some [] }
  let reqs : List (StressEnv Unit × PgHdr) :=
    [(StressEnv.allOk WriteEnv.allOk, ⟨2, ⟨true, false, false⟩, [], none, 0⟩),
     (StressEnv.allOk WriteEnv.allOk, ⟨3, ⟨true, true, false⟩, [], none, 0⟩)]
  have hreqs : ∀ r ∈ reqs, SyncJournalMovesState r.1 := by simp [reqs, StressEnv.allOk_movesState]
  obtain ⟨⟨q, ⟨⟩⟩, h⟩ := Option.isSome_iff_exists.1 (stressRun_isSome reqs p ())
  exact ⟨reqs, p, q, hreqs, h, stressRun_eState reqs hreqs p () q () h⟩

/-- Over every run of spills whose `syncJournal` calls move the pager only from
`WRITER_CACHEMOD` to `WRITER_DBMOD`: if the pager is in `ERROR` exactly when it has
latched an error code before the run, so it is after it. -/
theorem stressRun_errorLatched (reqs : List (StressEnv σ × PgHdr))
    (hE : ∀ r ∈ reqs, SyncJournalMovesState r.1) (p : Pager) (w : σ) (hp : ErrorLatched p) (q : Pager)
    (w' : σ) (h : stressRun p w reqs = some (q, w')) :
    ErrorLatched q :=
  stressRun_preserves ErrorLatched reqs (fun _ _ _ _ _ hr hq ho => pagerStress_errorLatched (hE _ hr) hq ho)
    reqs p w q w' (fun _ h => h) hp h

/-- A rollback pager in `WRITER_CACHEMOD` whose first spill fails with
`SQLITE_IOERR_WRITE` after 100 bytes, then a second spill. -/
theorem stressRun_errorLatched_ioerr :
    ∃ (reqs : List (StressEnv Unit × PgHdr)) (p q : Pager), (∀ r ∈ reqs, SyncJournalMovesState r.1) ∧
      ErrorLatched p ∧ stressRun p () reqs = some (q, ()) ∧ ErrorLatched q := by
  let p : Pager :=
    { Pager.blank with
      eState := .WRITER_CACHEMOD, eLock := 2, dbSize := 3, dbFileSize := 1, dbHintSize := 1, fd := some [] }
  let reqs : List (StressEnv Unit × PgHdr) :=
    [(StressEnv.allOk WriteEnv.shortWrite, ⟨2, ⟨true, false, false⟩, [], none, 0⟩),
     (StressEnv.allOk WriteEnv.allOk, ⟨3, ⟨true, false, false⟩, [], none, 0⟩)]
  have hreqs : ∀ r ∈ reqs, SyncJournalMovesState r.1 := by simp [reqs, StressEnv.allOk_movesState]
  have hp : ErrorLatched p := by decide
  obtain ⟨⟨q, ⟨⟩⟩, h⟩ := Option.isSome_iff_exists.1 (stressRun_isSome reqs p ())
  exact ⟨reqs, p, q, hreqs, hp, h, stressRun_errorLatched reqs hreqs p () hp q () h⟩

/-! ### The counters -/

/-- `pager_error` leaves the counters alone. -/
theorem pagerError_aStat (q : Pager) (rc : Nat) : (pagerError q rc).aStat = q.aStat := by
  unfold pagerError; split <;> rfl

/-- `pager_error` leaves the journal mode alone. -/
theorem pagerError_pWal (q : Pager) (rc : Nat) : (pagerError q rc).pWal = q.pWal := by
  unfold pagerError; split <;> rfl

/-- A rollback run of lines 64-92 keeps the pager a rollback pager and adds at
most one to `aStat[PAGER_STAT_WRITE]`, through the one-page `pager_write_pagelist`;
no other counter moves. -/
theorem SpillRun.aStat {E : StressEnv σ} {p : Pager} {pg : PgHdr} {w : σ} {o : StressOut σ}
    (h : SpillRun E p pg w o) (hwal : pagerUseWal p = false) :
    o.pager.pWal = p.pWal ∧ ∃ b ≤ 1, o.pager.aStat = { p.aStat with write := p.aStat.write + b } := by
  have hone : ∀ {q : Pager} {x : PgHdr} {ow : WriteOut}, pagerWritePagelist E.io q [x] = some ow →
      ow.pager.pWal = q.pWal ∧ ∃ b ≤ 1, ow.pager.aStat = { q.aStat with write := q.aStat.write + b } := by
    intro q x ow hw
    obtain ⟨_, _, _, _, _, hq⟩ := pagerWritePagelist_pager_eq hw
    exact ⟨by rw [hq], _, pagerWritePagelist_writeCount_le hw, pagerWritePagelist_aStat _ _ _ _ hw⟩
  cases h with
  | subjournalFails hw | walFrames hw => simp [hw] at hwal
  | write _ _ _ _ _ _ hw => exact hone hw
  | syncWrite _ _ _ _ _ _ _ hw => have h := hone hw; exact h
  | _ => exact ⟨rfl, 0, Nat.zero_le _, rfl⟩

/-- One spill of a rollback pager: a refused spill counts nothing; any other adds
one to `aStat[PAGER_STAT_SPILL]` (line 64) and at most one to
`aStat[PAGER_STAT_WRITE]`. -/
theorem pagerStress_aStat {E : StressEnv σ} {p : Pager} {pg : PgHdr} {w : σ} {o : StressOut σ}
    (h : pagerStress E p pg w = some o) (hwal : pagerUseWal p = false) :
    pagerUseWal o.pager = false ∧ ∃ a b, b ≤ a ∧ a ≤ 1 ∧
      o.pager.aStat = { p.aStat with spill := p.aStat.spill + a, write := p.aStat.write + b } := by
  by_cases hr : SpillRefused p pg
  · rw [pagerStress_of_refused E w hr] at h
    cases h
    exact ⟨hwal, 0, 0, le_rfl, Nat.zero_le _, rfl⟩
  obtain ⟨o', hrun, hps⟩ := pagerStress_run E w hr
  rw [hps] at h
  cases h
  obtain ⟨hw, b, hb, ha⟩ := hrun.aStat hwal
  rw [stressFinish_pager]
  exact ⟨by rw [pagerUseWal, pagerError_pWal, hw]; exact hwal, 1, b, hb, le_rfl, by rw [pagerError_aStat, ha]⟩

/-- Over every run of spills of a rollback pager, whatever the victims, the
collaborators and the VFS report: the run adds to `aStat[PAGER_STAT_SPILL]` at
most one per request, and to `aStat[PAGER_STAT_WRITE]` no more than it adds to
`aStat[PAGER_STAT_SPILL]` (a spill writes at most its own page); the cache hit and
miss counters do not move. -/
theorem stressRun_aStat (reqs : List (StressEnv σ × PgHdr)) :
    ∀ (p : Pager) (w : σ) (q : Pager) (w' : σ), pagerUseWal p = false → stressRun p w reqs = some (q, w') →
      ∃ a b, b ≤ a ∧ a ≤ reqs.length ∧
        q.aStat = { p.aStat with spill := p.aStat.spill + a, write := p.aStat.write + b } := by
  induction reqs with
  | nil =>
    intro p w q w' _ h
    cases h
    exact ⟨0, 0, le_rfl, le_rfl, rfl⟩
  | cons r rest ih =>
    intro p w q w' hwal h
    simp only [stressRun] at h
    obtain ⟨o, ho, h⟩ := Option.bind_eq_some.1 h
    obtain ⟨hwal', a, b, hba, ha, hs⟩ := pagerStress_aStat ho hwal
    obtain ⟨a', b', hba', ha', hs'⟩ := ih o.pager o.world q w' hwal' h
    refine ⟨a + a', b + b', Nat.add_le_add hba hba', by simp only [List.length_cons]; omega, ?_⟩
    rw [hs', hs]
    simp only [Nat.add_assoc]

/-- A rollback pager in `WRITER_CACHEMOD` that spills pages 2 and 3. -/
theorem stressRun_aStat_cachemod :
    ∃ (reqs : List (StressEnv Unit × PgHdr)) (p q : Pager), pagerUseWal p = false ∧
      stressRun p () reqs = some (q, ()) ∧ ∃ a b, b ≤ a ∧ a ≤ reqs.length ∧
        q.aStat = { p.aStat with spill := p.aStat.spill + a, write := p.aStat.write + b } := by
  let p : Pager :=
    { Pager.blank with
      eState := .WRITER_CACHEMOD, eLock := 2, dbSize := 3, dbFileSize := 1, dbHintSize := 1, fd := some [] }
  let E := StressEnv.allOk WriteEnv.allOk
  let reqs : List (StressEnv Unit × PgHdr) :=
    [(E, ⟨2, ⟨true, false, false⟩, [], none, 0⟩), (E, ⟨3, ⟨true, false, false⟩, [], none, 0⟩)]
  obtain ⟨⟨q, ⟨⟩⟩, h⟩ := Option.isSome_iff_exists.1 (stressRun_isSome reqs p ())
  exact ⟨reqs, p, q, rfl, h, stressRun_aStat reqs p () q () rfl h⟩

end

end SqliteCore
