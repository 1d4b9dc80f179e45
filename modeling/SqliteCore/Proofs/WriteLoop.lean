import SqliteCore.Pager.WritePagelist

/-!
# `SqliteCore.Proofs.WriteLoop`: the calls `pager_write_pagelist` makes

The loop of `pager_write_pagelist` (`pager-imp.c:168-214`) is taken apart with its
own induction principle `writeLoop.induct`: a page that is skipped, a codec that
fails, a write that succeeds and the loop goes on, a write that fails and the
loop stops. The part before the loop (lines 145-166) is stated once, in
`pagerWritePagelist_cases`.

* `writeLoop_pager_eq`: the loop changes only the file, `dbFileVers`,
  `dbFileSize` and the counters of the pager.
* `writeLoop_pages_key`: the list is written in place; each page keeps its
  number, its flags and its link.
* `writeLoop_preserves`: a property of the pager that every write of a listed
  page keeps holds after the loop, whatever the VFS reports.
* `pagerWritePagelist_writes`: the `sqlite3OsWrite` calls are the listed pages
  within `dbSize` and without `PGHDR_DONT_WRITE`, in list order, up to and
  including the first that fails; each writes one page at its page-aligned
  offset inside the image, and the result is `SQLITE_OK` exactly when no write
  failed.
* `pagerWritePagelist_nil_derefs_null`: on a pager that meets every entry
  condition and whose size hint lags `dbSize`, the `NULL` list, which the header
  comment admits as a no-op, is dereferenced at line 161.
* `pagerWritePagelist_sizeHint`: on a list its `pDirty` pointers link, no write
  ends past the size last hinted to the VFS.
* `pagerWritePagelist_aStat`: `aStat[PAGER_STAT_WRITE]` grows by the number of
  `sqlite3OsWrite` calls, failed ones included, and no other counter moves.
-/

set_option autoImplicit false

namespace SqliteCore

/-- The `(iAmt, iOfst)` of an `sqlite3OsWrite` call. -/
def IoEvent.writeArgs : IoEvent → Option (Nat × Nat)
  | .write _ iAmt iOfst => some (iAmt, iOfst)
  | _ => none

/-- The codec never returns `NULL` when it encodes a page for the database file. -/
def CodecTotal (E : WriteEnv) : Prop := ∀ d pgno, (codec2 E.xCodec d pgno 6).isSome

/-! ### One page -/

/-- A write returns `SQLITE_OK` exactly when the VFS reports every byte written. -/
theorem sqlite3OsWrite_fst_eq_ok {r : WriteResult} {fd : Option (List UInt8)} {d : List UInt8}
    {n off : Nat} : (sqlite3OsWrite r fd d n off).1 = SQLITE_OK ↔ r = .ok := by
  cases r with
  | ok => simp [sqlite3OsWrite]
  | err e _ => simp [sqlite3OsWrite, e.ne_ok]

section
variable {r : WriteResult} {p : Pager} {pgno : Pgno} {d : List UInt8}

@[simp] theorem pageWritten_pagerStorePage : pageWritten (pagerStorePage r p pgno d).2 = pageWritten p :=
  rfl

@[simp] theorem pageOffset_pagerStorePage : pageOffset (pagerStorePage r p pgno d).2 = pageOffset p :=
  rfl

@[simp] theorem pagerStorePage_pageSize : (pagerStorePage r p pgno d).2.pageSize = p.pageSize := rfl

@[simp] theorem pagerStorePage_dbSize : (pagerStorePage r p pgno d).2.dbSize = p.dbSize := rfl

end

/-- A page within `dbSize` starts `(pgno-1)*pageSize` bytes into the file, an offset
that `i64` holds, and ends inside the image of `dbSize` pages. -/
theorem pageOffset_bounds (p : Pager) (pgno : Pgno) (h1 : 1 ≤ pgno) (hle : pgno ≤ p.dbSize) :
    pageOffset p pgno = (pgno.toNat - 1) * p.pageSize ∧
      pageOffset p pgno + p.pageSize ≤ p.dbSize.toNat * p.pageSize ∧ pageOffset p pgno < 2 ^ 63 := by
  have hoff : pageOffset p pgno = (pgno.toNat - 1) * p.pageSize := by
    rw [pageOffset, Pgno.toNat_sub_one h1]
  have h1' : 1 ≤ pgno.toNat := h1
  have hend : (pgno.toNat - 1) * p.pageSize + p.pageSize = pgno.toNat * p.pageSize := by
    rw [← Nat.succ_mul, Nat.succ_eq_add_one, Nat.sub_add_cancel h1']
  refine ⟨hoff, ?_, ?_⟩
  · rw [hoff, hend]; exact Nat.mul_le_mul_right _ hle
  · calc pageOffset p pgno ≤ 2 ^ 32 * 2 ^ 16 := by
          rw [hoff]
          exact Nat.mul_le_mul (Nat.le_of_lt (Nat.lt_of_le_of_lt (Nat.sub_le _ _) pgno.toNat_lt_size))
            p.pageSize_le
      _ < 2 ^ 63 := by decide

section
variable {E : WriteEnv} {p : Pager} {pg : PgHdr}

@[simp] theorem changecounterIfPage1_pgno : (changecounterIfPage1 E p pg).pgno = pg.pgno := by
  unfold changecounterIfPage1; split <;> rfl

@[simp] theorem changecounterIfPage1_flags : (changecounterIfPage1 E p pg).flags = pg.flags := by
  unfold changecounterIfPage1; split <;> rfl

@[simp] theorem changecounterIfPage1_pDirty : (changecounterIfPage1 E p pg).pDirty = pg.pDirty := by
  unfold changecounterIfPage1; split <;> rfl

end

/-! ### The loop -/

/-- The loop changes only the file, `dbFileVers`, `dbFileSize` and the counters. -/
theorem writeLoop_pager_eq (E : WriteEnv) (k : Nat) (p : Pager) (L : List PgHdr) :
    ∃ fd vers fs st, (writeLoop E k p L).pager =
      { p with fd := fd, dbFileVers := vers, dbFileSize := fs, aStat := st } := by
  induction k, p, L using writeLoop.induct E with
  | case1 => exact ⟨_, _, _, _, rfl⟩
  | case2 k p pg rest hw pg1 hd => exact ⟨p.fd, p.dbFileVers, p.dbFileSize, p.aStat, by simp [writeLoop, hw, hd]⟩
  | case3 k p pg rest hw pg1 d hd s hok ih =>
    obtain ⟨fd, v, fs, st, h⟩ := ih
    exact ⟨fd, v, fs, st, by simp only [writeLoop, hw, hd, if_true]; simp only [s] at hok; simp only [hok, if_true]; exact h⟩
  | case4 k p pg rest hw pg1 d hd s hok => exact ⟨_, _, _, _, by simp [writeLoop, hw, hd]; simp only [s] at hok; simp [hok]; rfl⟩
  | case5 k p pg rest hw ih => simpa [writeLoop, hw] using ih

/-- The loop writes the list in place: each page keeps its number, flags and link;
only its image (the change counter of page 1) and its hash change. -/
theorem writeLoop_pages_key (E : WriteEnv) (k : Nat) (p : Pager) (L : List PgHdr) :
    (writeLoop E k p L).pages.map (fun pg => (pg.pgno, pg.flags, pg.pDirty)) =
      L.map (fun pg => (pg.pgno, pg.flags, pg.pDirty)) := by
  induction k, p, L using writeLoop.induct E with
  | case1 => rfl
  | case2 k p pg rest hw pg1 hd => simp [writeLoop, hw, hd]
  | case3 k p pg rest hw pg1 d hd s hok ih =>
    simp only [s] at hok ih
    simp [writeLoop, hw, hd, hok, ih, pagerSetPagehash]
  | case4 k p pg rest hw pg1 d hd s hok =>
    simp only [s] at hok
    simp [writeLoop, hw, hd, hok, pagerSetPagehash]
  | case5 k p pg rest hw ih => simp [writeLoop, hw, ih, pagerSetPagehash]

/-- Every `sqlite3OsWrite` of the loop writes a page of the list that line 177 lets
through, `pageSize` bytes at its offset. -/
theorem writeLoop_write_page (E : WriteEnv) (k : Nat) (p : Pager) (L : List PgHdr)
    {d : List UInt8} {n off : Nat} (h : IoEvent.write d n off ∈ (writeLoop E k p L).io) :
    ∃ pg ∈ L, pageWritten p pg = true ∧ n = p.pageSize ∧ off = pageOffset p pg.pgno := by
  induction k, p, L using writeLoop.induct E with
  | case1 => simp [writeLoop] at h
  | case2 k p pg rest hw pg1 hd => simp [writeLoop, hw, hd] at h
  | case3 k p pg rest hw pg1 d' hd s hok ih =>
    simp only [s] at hok ih
    simp [writeLoop, hw, hd, hok] at h
    rcases h with ⟨-, rfl, rfl⟩ | h
    · exact ⟨pg, List.mem_cons_self _ _, hw, rfl, rfl⟩
    · obtain ⟨x, hx, h1, h2⟩ := ih h
      exact ⟨x, List.mem_cons_of_mem _ hx, by simpa using h1, by simpa using h2⟩
  | case4 k p pg rest hw pg1 d' hd s hok =>
    simp only [s] at hok
    simp [writeLoop, hw, hd, hok] at h
    obtain ⟨-, rfl, rfl⟩ := h
    exact ⟨pg, List.mem_cons_self _ _, hw, rfl, rfl⟩
  | case5 k p pg rest hw ih =>
    obtain ⟨x, hx, h1⟩ := ih (by simpa [writeLoop, hw] using h)
    exact ⟨x, List.mem_cons_of_mem _ hx, h1⟩

/-- The `sqlite3OsWrite` calls of the loop from the `k`-th write on: the first `m`
pages of the list that are written, each `pageSize` bytes at its offset, where the
`m`-th is the first write the VFS fails, or the last page. The loop returns
`SQLITE_OK` exactly when none of the `m` writes failed. -/
theorem writeLoop_writes (E : WriteEnv) (hc : CodecTotal E) (k : Nat) (p : Pager) (L : List PgHdr) :
    ∃ m ≤ (L.filter (pageWritten p)).length,
      (writeLoop E k p L).io.filterMap IoEvent.writeArgs =
        ((L.filter (pageWritten p)).take m).map (fun pg => (p.pageSize, pageOffset p pg.pgno)) ∧
      (∀ j, k ≤ j → j + 1 < k + m → E.xWrite j = .ok) ∧
      (m < (L.filter (pageWritten p)).length → 0 < m ∧ E.xWrite (k + m - 1) ≠ .ok) ∧
      ((writeLoop E k p L).rc = SQLITE_OK ↔ ∀ j, k ≤ j → j < k + m → E.xWrite j = .ok) := by
  induction k, p, L using writeLoop.induct E with
  | case1 k p => exact ⟨0, le_refl _, rfl, fun j _ _ => by omega, fun h => by simp at h,
      ⟨fun _ j _ _ => by omega, fun _ => rfl⟩⟩
  | case2 k p pg rest hw pg1 hd => exact absurd (hc pg1.pData pg.pgno) (by simp [hd])
  | case3 k p pg rest hw pg1 d hd s hok ih =>
    simp only [s, pageWritten_pagerStorePage, pageOffset_pagerStorePage, pagerStorePage_pageSize] at hok ih
    have hk : E.xWrite k = .ok := sqlite3OsWrite_fst_eq_ok.1 hok
    obtain ⟨m, hm, h1, h2, h3, h4⟩ := ih
    have hrc : (writeLoop E k p (pg :: rest)).rc = (writeLoop E (k + 1) (pagerStorePage (E.xWrite k) p pg.pgno d).2 rest).rc := by
      simp [writeLoop, hw, hd, hok]
    refine ⟨m + 1, by simp [List.filter_cons, hw]; omega, ?_, ?_, ?_, ?_⟩
    · simp [writeLoop, hw, hd, hok, List.filter_cons, IoEvent.writeArgs, h1]
    · intro j hj hjm
      rcases Nat.eq_or_lt_of_le hj with rfl | hj
      · exact hk
      · exact h2 j hj (by omega)
    · intro hlt
      simp only [List.filter_cons, hw, if_true, List.length_cons] at hlt
      obtain ⟨hm0, hfail⟩ := h3 (by omega)
      exact ⟨by omega, by rwa [show k + (m + 1) - 1 = k + 1 + m - 1 by omega]⟩
    · rw [hrc, h4]
      constructor
      · intro h j hj hjm
        rcases Nat.eq_or_lt_of_le hj with rfl | hj
        · exact hk
        · exact h j hj (by omega)
      · intro h j hj hjm; exact h j (by omega) (by omega)
  | case4 k p pg rest hw pg1 d hd s hok =>
    simp only [s] at hok
    have hk : E.xWrite k ≠ .ok := fun h => hok (sqlite3OsWrite_fst_eq_ok.2 h)
    refine ⟨1, by simp [List.filter_cons, hw], ?_, fun j hj hjm => by omega, fun _ => ⟨by omega, hk⟩, ?_⟩
    · simp [writeLoop, hw, hd, hok, List.filter_cons, IoEvent.writeArgs]
    · simp only [writeLoop, hw, hd, hok, if_true, if_false, false_iff]
      exact fun h => hk (h k (le_refl _) (by omega))
  | case5 k p pg rest hw ih =>
    obtain ⟨m, hm, h1, h2, h3, h4⟩ := ih
    have hf : (pg :: rest).filter (pageWritten p) = rest.filter (pageWritten p) := by
      simp [List.filter_cons, hw]
    refine ⟨m, by rw [hf]; exact hm, ?_, h2, by rw [hf]; exact h3, ?_⟩
    · simpa [writeLoop, hw, hf] using h1
    · simpa [writeLoop, hw] using h4

/-- A property of the pager that every write of a page of `L` keeps, whatever the
VFS reports, holds after the loop over any part of `L`: the writes are the only
steps of the loop that change the pager. -/
theorem writeLoop_preserves (E : WriteEnv) (Inv : Pager → Prop) (L : List PgHdr)
    (step : ∀ i q pg d, i < L.length → pg ∈ L → Inv q → pageWritten q pg = true →
      codec2 E.xCodec (changecounterIfPage1 E q pg).pData pg.pgno 6 = some d →
      Inv (pagerStorePage (E.xWrite i) q pg.pgno d).2)
    (k : Nat) (p : Pager) (R : List PgHdr) (hR : ∀ pg ∈ R, pg ∈ L) (hk : k + R.length ≤ L.length)
    (hp : Inv p) : Inv (writeLoop E k p R).pager := by
  induction k, p, R using writeLoop.induct E with
  | case1 => exact hp
  | case2 k p pg rest hw pg1 hd => simpa [writeLoop, hw, hd] using hp
  | case3 k p pg rest hw pg1 d hd s hok ih =>
    simp only [List.length_cons] at hk
    have h := ih (fun x hx => hR x (List.mem_cons_of_mem _ hx)) (by omega)
      (step k p pg d (by omega) (hR pg (List.mem_cons_self _ _)) hp hw hd)
    simp only [s] at hok h
    simpa [writeLoop, hw, hd, hok] using h
  | case4 k p pg rest hw pg1 d hd s hok =>
    simp only [List.length_cons] at hk
    simp only [s] at hok
    simpa [writeLoop, hw, hd, hok] using
      step k p pg d (by omega) (hR pg (List.mem_cons_self _ _)) hp hw hd
  | case5 k p pg rest hw ih =>
    simp only [List.length_cons] at hk
    simpa [writeLoop, hw] using ih (fun x hx => hR x (List.mem_cons_of_mem _ hx)) (by omega) hp

/-! ### Before the loop -/

/-- Lines 159-166 change only `dbHintSize`, and call at most the size hint. -/
theorem pagerSizeHint_eq {p : Pager} {L : List PgHdr} {q : Pager} {hint : List IoEvent}
    (h : pagerSizeHint p L = some (q, hint)) :
    (∃ hs, q = { p with dbHintSize := hs }) ∧ (hint = [] ∨ ∃ sz, hint = [.fileControlHint sz]) := by
  unfold pagerSizeHint at h
  split_ifs at h with h1
  · cases L with
    | nil => cases h
    | cons pg rest =>
      simp only at h
      split_ifs at h <;>
        (simp only [Option.some.injEq, Prod.mk.injEq] at h; obtain ⟨rfl, rfl⟩ := h
         exact ⟨⟨_, rfl⟩, by simp⟩)
  · simp only [Option.some.injEq, Prod.mk.injEq] at h; obtain ⟨rfl, rfl⟩ := h
    exact ⟨⟨p.dbHintSize, rfl⟩, Or.inl rfl⟩

/-- A list with a page never makes lines 159-166 dereference `NULL`. -/
theorem pagerSizeHint_isSome (p : Pager) (pg : PgHdr) (rest : List PgHdr) :
    (pagerSizeHint p (pg :: rest)).isSome := by
  simp only [pagerSizeHint]; split_ifs <;> rfl

/-- Lines 145-166. If the temporary file fails to open, the call returns at once.
Otherwise the loop runs on a pager that differs from `pPager` at most in its file,
opened empty, and `dbHintSize`, after at most the size hint. -/
theorem pagerWritePagelist_cases {E : WriteEnv} {p : Pager} {L : List PgHdr} {o : WriteOut}
    (h : pagerWritePagelist E p L = some o) :
    (p.fd = none ∧ E.pagerOpentemp ≠ SQLITE_OK ∧ o = ⟨E.pagerOpentemp, p, L, []⟩) ∨
    ∃ fd hs hint, (fd = p.fd ∨ (p.fd = none ∧ fd = some [])) ∧
      (hint = [] ∨ ∃ sz, hint = [.fileControlHint sz]) ∧
      o = { writeLoop E 0 { p with fd := fd, dbHintSize := hs } L with
            io := hint ++ (writeLoop E 0 { p with fd := fd, dbHintSize := hs } L).io } := by
  unfold pagerWritePagelist at h
  cases hopen : isOpen p.fd
  · have hnone : p.fd = none := by simpa [isOpen] using hopen
    by_cases hot : E.pagerOpentemp = SQLITE_OK
    · simp only [hopen, Bool.false_eq_true, if_false, pagerOpentemp, hot, if_true] at h
      obtain ⟨⟨q, hint⟩, hq, rfl⟩ := Option.map_eq_some'.1 h
      obtain ⟨⟨hs, rfl⟩, hq2⟩ := pagerSizeHint_eq hq
      exact Or.inr ⟨some [], hs, hint, Or.inr ⟨hnone, rfl⟩, hq2, rfl⟩
    · simp only [hopen, Bool.false_eq_true, if_false, pagerOpentemp, hot, Option.some.injEq] at h
      exact Or.inl ⟨hnone, hot, h.symm⟩
  · simp only [hopen, if_true] at h
    obtain ⟨⟨q, hint⟩, hq, rfl⟩ := Option.map_eq_some'.1 h
    obtain ⟨⟨hs, rfl⟩, hq2⟩ := pagerSizeHint_eq hq
    exact Or.inr ⟨p.fd, hs, hint, Or.inl rfl, hq2, rfl⟩

/-- On an open file the call is at most the size hint, then the loop on the pager
with its new `dbHintSize`. -/
theorem pagerWritePagelist_of_fd {E : WriteEnv} {p : Pager} {L : List PgHdr} {o : WriteOut}
    (h : pagerWritePagelist E p L = some o) {data : List UInt8} (hfd : p.fd = some data) :
    ∃ hs hint, (hint = [] ∨ ∃ sz, hint = [.fileControlHint sz]) ∧
      o = { writeLoop E 0 { p with dbHintSize := hs } L with
            io := hint ++ (writeLoop E 0 { p with dbHintSize := hs } L).io } := by
  rcases pagerWritePagelist_cases h with ⟨hnone, -⟩ | ⟨fd, hs, hint, hfd', hhint, rfl⟩
  · simp [hfd] at hnone
  rcases hfd' with rfl | ⟨hnone, -⟩
  · exact ⟨hs, hint, hhint, rfl⟩
  · simp [hfd] at hnone

/-- A list with a page never makes `pager_write_pagelist` dereference `NULL`. -/
theorem pagerWritePagelist_isSome (E : WriteEnv) (p : Pager) (pg : PgHdr) (rest : List PgHdr) :
    (pagerWritePagelist E p (pg :: rest)).isSome := by
  unfold pagerWritePagelist
  cases hopen : isOpen p.fd
  · by_cases hot : E.pagerOpentemp = SQLITE_OK
    · simp [pagerOpentemp, hot, pagerSizeHint_isSome]
    · simp [pagerOpentemp, hot]
  · simp [pagerSizeHint_isSome]

/-- `pager_write_pagelist` changes only the file, `dbFileVers`, `dbFileSize`,
`dbHintSize` and the counters of the pager. -/
theorem pagerWritePagelist_pager_eq {E : WriteEnv} {p : Pager} {L : List PgHdr} {o : WriteOut}
    (h : pagerWritePagelist E p L = some o) :
    ∃ fd vers fs hint st, o.pager =
      { p with fd := fd, dbFileVers := vers, dbFileSize := fs, dbHintSize := hint, aStat := st } := by
  rcases pagerWritePagelist_cases h with ⟨-, -, rfl⟩ | ⟨fd, hs, hint, -, -, rfl⟩
  · exact ⟨_, _, _, _, _, rfl⟩
  · obtain ⟨fd', v, fs, st, hl⟩ := writeLoop_pager_eq E 0 { p with fd := fd, dbHintSize := hs } L
    exact ⟨fd', v, fs, hs, st, hl⟩

/-! ### The writes -/

/-- For a list of pages numbered from 1, with the temporary file opening if it
has to and a codec that does not fail: the `sqlite3OsWrite` calls of
`pager_write_pagelist` are, in list order, the first `m` pages of the list that lie
within `dbSize` and are not marked `PGHDR_DONT_WRITE`, where the `m`-th is the
first write the VFS fails, or the last such page. Each writes `pageSize` bytes at
`(pgno-1)*pageSize`, which is computed without overflow and ends inside the image
of `dbSize` pages. The result is `SQLITE_OK` exactly when none of the writes
failed. -/
theorem pagerWritePagelist_writes (E : WriteEnv) (p : Pager) (L : List PgHdr) (hL : L ≠ [])
    (hpgno : ∀ pg ∈ L, 1 ≤ pg.pgno) (hopen : isOpen p.fd = true ∨ E.pagerOpentemp = SQLITE_OK)
    (hc : CodecTotal E) :
    ∃ o, pagerWritePagelist E p L = some o ∧
      ∃ m ≤ (L.filter (pageWritten p)).length,
        o.io.filterMap IoEvent.writeArgs =
          ((L.filter (pageWritten p)).take m).map (fun pg => (p.pageSize, pageOffset p pg.pgno)) ∧
        (∀ j, j + 1 < m → E.xWrite j = .ok) ∧
        (m < (L.filter (pageWritten p)).length → 0 < m ∧ E.xWrite (m - 1) ≠ .ok) ∧
        (o.rc = SQLITE_OK ↔ ∀ j < m, E.xWrite j = .ok) ∧
        ∀ pg ∈ L.filter (pageWritten p), pageOffset p pg.pgno = (pg.pgno.toNat - 1) * p.pageSize ∧
          pageOffset p pg.pgno + p.pageSize ≤ p.dbSize.toNat * p.pageSize ∧
          pageOffset p pg.pgno < 2 ^ 63 := by
  obtain ⟨pg, rest, rfl⟩ := List.exists_cons_of_ne_nil hL
  obtain ⟨o, ho⟩ := Option.isSome_iff_exists.1 (pagerWritePagelist_isSome E p pg rest)
  refine ⟨o, ho, ?_⟩
  rcases pagerWritePagelist_cases ho with ⟨hclosed, hfail, -⟩ | ⟨fd, hs, hint, -, hhint, rfl⟩
  · exact absurd hopen (by simp [isOpen, hclosed, hfail])
  have hhint' : hint.filterMap IoEvent.writeArgs = [] := by
    rcases hhint with rfl | ⟨sz, rfl⟩ <;> rfl
  obtain ⟨m, hm, h1, h2, h3, h4⟩ := writeLoop_writes E hc 0 { p with fd := fd, dbHintSize := hs } (pg :: rest)
  refine ⟨m, hm, ?_, fun j hj => h2 j (Nat.zero_le _) (by omega), fun h => by simpa using h3 h,
    ?_, fun x hx => ?_⟩
  · simp only [List.filterMap_append, hhint', h1, List.nil_append]; rfl
  · simpa using h4
  · rw [List.mem_filter] at hx
    have hle : x.pgno ≤ p.dbSize := (by simpa [pageWritten] using hx.2 : _ ∧ _).1
    exact pageOffset_bounds p x.pgno (hpgno x hx.1) hle

/-- The VFS and its collaborators when every call succeeds and there is no codec. -/
def WriteEnv.allOk : WriteEnv := ⟨SQLITE_OK, fun _ => .ok, none, fun _ d => d⟩

/-- The VFS when every write fails with `SQLITE_IOERR_WRITE` after 100 bytes. -/
def WriteEnv.shortWrite : WriteEnv := ⟨SQLITE_OK, fun _ => .err ⟨778, by decide⟩ 100, none, fun _ d => d⟩

/-- A rollback pager of 512-byte pages with no file open, nothing latched and its
counters at zero: concrete pagers below set the fields they are about on it. -/
def Pager.blank : Pager :=
  ⟨false, .OPEN, 0, 0, 0, 0, 0, 0, none, List.replicate 16 0, 512, ⟨9, by decide, by decide, rfl⟩,
    ⟨0, 0, 0, 0⟩, false⟩

/-- Page 1 and page 3 of a two-page image, page 3 past `dbSize`: the one write is
page 1, 512 bytes at offset 0, and the call returns `SQLITE_OK`. -/
theorem pagerWritePagelist_writes_truncated :
    ∃ (p : Pager) (L : List PgHdr), L ≠ [] ∧ (∀ pg ∈ L, 1 ≤ pg.pgno) ∧
      (isOpen p.fd = true ∨ WriteEnv.allOk.pagerOpentemp = SQLITE_OK) ∧ CodecTotal WriteEnv.allOk ∧
      ∃ o, pagerWritePagelist WriteEnv.allOk p L = some o ∧
        o.io.filterMap IoEvent.writeArgs = [(512, 0)] ∧ o.rc = SQLITE_OK := by
  let p : Pager :=
    { Pager.blank with
      eState := .WRITER_DBMOD, eLock := EXCLUSIVE_LOCK, dbSize := 2, dbFileSize := 1, dbHintSize := 2,
      fd := some (List.replicate 512 0) }
  let L : List PgHdr := [⟨1, ⟨true, false, false⟩, List.replicate 512 0, some 3, 0⟩,
    ⟨3, ⟨true, false, false⟩, List.replicate 512 0, none, 0⟩]
  have hpgno : ∀ pg ∈ L, 1 ≤ pg.pgno := by decide
  have hc : CodecTotal WriteEnv.allOk := fun _ _ => rfl
  obtain ⟨o, ho, m, hm, hw, -, hlast, hrc, -⟩ :=
    pagerWritePagelist_writes _ p L (List.cons_ne_nil _ _) hpgno (Or.inl rfl) hc
  have hlen : (L.filter (pageWritten p)).length = 1 := by decide
  have hm1 : m = 1 := by
    by_contra h
    have := hlast (by omega)
    omega
  subst hm1
  exact ⟨p, L, List.cons_ne_nil _ _, hpgno, Or.inl rfl, hc, o, ho, hw.trans (by decide),
    hrc.2 fun _ _ => rfl⟩

/-! ### The `NULL` list -/

/-- A pager that meets every entry condition of `pager_write_pagelist` (a rollback
pager in `WRITER_DBMOD` holding `EXCLUSIVE_LOCK`, its file open) and whose size
hint lags the image, `dbHintSize = 0 < dbSize = 1`: the `NULL` list, which the
header comment admits as a no-op, is dereferenced at line 161. -/
theorem pagerWritePagelist_nil_derefs_null :
    ∃ p : Pager, WritePagelistEntry p [] ∧ p.dbHintSize = 0 ∧ p.dbSize = 1 ∧
      ∀ E : WriteEnv, pagerWritePagelist E p [] = none :=
  ⟨{ Pager.blank with
      eState := .WRITER_DBMOD, eLock := EXCLUSIVE_LOCK, dbSize := 1, dbFileSize := 1, fd := some [] },
    ⟨rfl, Or.inr rfl, rfl, Or.inl rfl⟩, rfl, rfl, fun _ => rfl⟩

/-! ### The size hint -/

/-- The list of lines 168-214 is the one its `pDirty` pointers link: each page's
`pDirty` names the next page, and the last page's is `NULL`. -/
def DirtyLinked : List PgHdr → Prop
  | [] => True
  | [pg] => pg.pDirty = none
  | pg :: pg' :: rest => pg.pDirty = some pg'.pgno ∧ DirtyLinked (pg' :: rest)

/-- Whether a list is linked by its `pDirty` pointers is decided page by page. -/
instance DirtyLinked.instDecidable : (L : List PgHdr) → Decidable (DirtyLinked L)
  | [] => isTrue trivial
  | [pg] => inferInstanceAs (Decidable (pg.pDirty = none))
  | pg :: pg' :: rest =>
    have := DirtyLinked.instDecidable (pg' :: rest)
    inferInstanceAs (Decidable (pg.pDirty = some pg'.pgno ∧ DirtyLinked (pg' :: rest)))

/-- A linked list whose head has a `NULL` `pDirty` has one page. -/
theorem DirtyLinked.eq_nil_of_none {pg : PgHdr} {rest : List PgHdr} (h : DirtyLinked (pg :: rest))
    (hn : pg.pDirty = none) : rest = [] := by
  cases rest with
  | nil => rfl
  | cons pg' rest => simp [DirtyLinked, hn] at h

/-- Lines 159-166 on a linked list: either no hint, because the hint already covers
`dbSize` or the list is one page within it; or the hint `pageSize * dbSize`, with
`dbHintSize` moved up to `dbSize`. -/
theorem pagerSizeHint_spec {p : Pager} {L : List PgHdr} {q : Pager} {hint : List IoEvent}
    (h : pagerSizeHint p L = some (q, hint)) (hL : DirtyLinked L) :
    (q = p ∧ hint = [] ∧ (p.dbSize ≤ p.dbHintSize ∨ ∃ pg, L = [pg] ∧ pg.pgno ≤ p.dbHintSize)) ∨
      (p.dbHintSize < p.dbSize ∧ q = { p with dbHintSize := p.dbSize } ∧
        hint = [.fileControlHint (p.pageSize * p.dbSize.toNat)]) := by
  unfold pagerSizeHint at h
  split_ifs at h with h1
  · cases L with
    | nil => cases h
    | cons pg rest =>
      simp only at h
      split_ifs at h with h2
      · cases h; exact Or.inr ⟨h1, rfl, rfl⟩
      · cases h
        simp only [Bool.or_eq_true, decide_eq_true_eq, not_or, Option.not_isSome_iff_eq_none] at h2
        refine Or.inl ⟨rfl, rfl, Or.inr ⟨pg, by rw [hL.eq_nil_of_none h2.1], ?_⟩⟩
        rw [Pgno.le_iff]; rw [Pgno.lt_iff] at h2; omega
  · cases h
    rw [Pgno.lt_iff] at h1
    exact Or.inl ⟨rfl, rfl, Or.inl (by rw [Pgno.le_iff]; omega)⟩

/-- A page numbered from 1 ends `pgno * pageSize` bytes into the file. -/
theorem pageOffset_add_pageSize (p : Pager) {pgno : Pgno} (h : 1 ≤ pgno) :
    pageOffset p pgno + p.pageSize = pgno.toNat * p.pageSize := by
  have h1 : 1 ≤ pgno.toNat := h
  rw [pageOffset, Pgno.toNat_sub_one h, ← Nat.succ_mul, Nat.succ_eq_add_one, Nat.sub_add_cancel h1]

/-- Every `sqlite3OsWrite` of the loop, on pages numbered from 1, ends at the end of a
listed page within `dbSize`. -/
theorem writeLoop_write_end (E : WriteEnv) (k : Nat) (p : Pager) (L : List PgHdr) (hpgno : ∀ pg ∈ L, 1 ≤ pg.pgno)
    {d : List UInt8} {n off : Nat} (h : IoEvent.write d n off ∈ (writeLoop E k p L).io) :
    ∃ pg ∈ L, pg.pgno ≤ p.dbSize ∧ off + n = pg.pgno.toNat * p.pageSize := by
  obtain ⟨pg, hpg, hpw, rfl, rfl⟩ := writeLoop_write_page E k p L h
  exact ⟨pg, hpg, (by simpa [pageWritten] using hpw : _ ∧ _).1, pageOffset_add_pageSize p (hpgno pg hpg)⟩

/-- For every list that its `pDirty` pointers link, of pages numbered from 1: every
`sqlite3OsWrite` of `pager_write_pagelist` ends within the size last hinted to the
VFS, `dbHintSize` pages as the call leaves it. The call keeps `dbHintSize`, or, when
it lags `dbSize`, moves it to `dbSize` with the hint `pageSize * dbSize` as its first
call: a write past the old hint is always announced before it is made. -/
theorem pagerWritePagelist_sizeHint (E : WriteEnv) (p : Pager) (L : List PgHdr) (hL : DirtyLinked L)
    (hpgno : ∀ pg ∈ L, 1 ≤ pg.pgno) (o : WriteOut) (ho : pagerWritePagelist E p L = some o) :
    (o.pager.dbHintSize = p.dbHintSize ∨
      (p.dbHintSize < p.dbSize ∧ o.pager.dbHintSize = p.dbSize ∧
        o.io.head? = some (.fileControlHint (p.pageSize * p.dbSize.toNat)))) ∧
      ∀ d n off, IoEvent.write d n off ∈ o.io → off + n ≤ o.pager.dbHintSize.toNat * p.pageSize := by
  unfold pagerWritePagelist at ho
  generalize hop : (if isOpen p.fd then (SQLITE_OK, p) else pagerOpentemp E p) = op at ho
  obtain ⟨fd, hp'⟩ : ∃ fd, op.2 = { p with fd := fd } := by
    subst hop; split
    · exact ⟨p.fd, rfl⟩
    · unfold pagerOpentemp; split
      exacts [⟨some [], rfl⟩, ⟨p.fd, rfl⟩]
  dsimp only at ho
  split_ifs at ho
  · obtain ⟨⟨q, hint⟩, hq, rfl⟩ := Option.map_eq_some'.1 ho
    obtain ⟨_, _, _, _, hloop⟩ := writeLoop_pager_eq E 0 q L
    simp only [hloop]
    rw [hp'] at hq
    rcases pagerSizeHint_spec hq hL with ⟨rfl, rfl, hcase⟩ | ⟨hlt, rfl, rfl⟩
    · refine ⟨Or.inl rfl, fun d n off h => ?_⟩
      obtain ⟨pg, hpg, hle, heq⟩ := writeLoop_write_end E 0 _ L hpgno (by simpa using h)
      rw [heq]
      refine Nat.mul_le_mul_right _ ?_
      rcases hcase with hc | ⟨pg0, rfl, hc⟩
      · exact Nat.le_trans hle hc
      · rw [List.mem_singleton.1 hpg]; exact hc
    · refine ⟨Or.inr ⟨hlt, rfl, rfl⟩, fun d n off h => ?_⟩
      simp only [List.mem_append, List.mem_singleton, reduceCtorEq, false_or] at h
      obtain ⟨pg, -, hle, heq⟩ := writeLoop_write_end E 0 _ L hpgno h
      rw [heq]
      exact Nat.mul_le_mul_right _ hle
  · cases ho
    exact ⟨Or.inl (by rw [hp']), fun d n off h => by simp at h⟩

/-- Pages 2 and 3 of a three-page image, linked, with the hint at page 1. -/
theorem pagerWritePagelist_sizeHint_grow :
    ∃ (p : Pager) (L : List PgHdr) (o : WriteOut), DirtyLinked L ∧ (∀ pg ∈ L, 1 ≤ pg.pgno) ∧
      pagerWritePagelist WriteEnv.allOk p L = some o ∧
      (o.pager.dbHintSize = p.dbHintSize ∨
        (p.dbHintSize < p.dbSize ∧ o.pager.dbHintSize = p.dbSize ∧
          o.io.head? = some (.fileControlHint (p.pageSize * p.dbSize.toNat)))) ∧
      ∀ d n off, IoEvent.write d n off ∈ o.io → off + n ≤ o.pager.dbHintSize.toNat * p.pageSize := by
  let p : Pager :=
    { Pager.blank with
      eState := .WRITER_DBMOD, eLock := EXCLUSIVE_LOCK, dbSize := 3, dbFileSize := 1, dbHintSize := 1,
      fd := some (List.replicate 512 0) }
  let pg3 : PgHdr := ⟨3, ⟨true, false, false⟩, List.replicate 512 0, none, 0⟩
  let L : List PgHdr := [⟨2, ⟨true, false, false⟩, List.replicate 512 0, some 3, 0⟩, pg3]
  have hL : DirtyLinked L := by decide
  have hpgno : ∀ pg ∈ L, 1 ≤ pg.pgno := by decide
  obtain ⟨o, ho⟩ := Option.isSome_iff_exists.1 (pagerWritePagelist_isSome WriteEnv.allOk p _ [pg3])
  exact ⟨p, L, o, hL, hpgno, ho, pagerWritePagelist_sizeHint _ p L hL hpgno o ho⟩

/-! ### The write counter -/

/-- Line 200 runs once for every `sqlite3OsWrite` of line 188, whatever it
returns, and never otherwise: the loop adds to `aStat[PAGER_STAT_WRITE]` the
number of writes it makes. -/
theorem writeLoop_aStat (E : WriteEnv) (k : Nat) (p : Pager) (L : List PgHdr) :
    (writeLoop E k p L).pager.aStat =
      { p.aStat with write := p.aStat.write + ((writeLoop E k p L).io.filterMap IoEvent.writeArgs).length } := by
  induction k, p, L using writeLoop.induct E with
  | case1 => rfl
  | case2 k p pg rest hw pg1 hd => simp only [writeLoop, hw, hd, if_true]; rfl
  | case3 k p pg rest hw pg1 d hd s hs ih =>
    simp only [s] at hs ih
    simp only [writeLoop, hw, hd, hs, if_true]
    rw [ih]
    simp [pagerStorePage, IoEvent.writeArgs, Nat.add_assoc, Nat.add_comm 1]
  | case4 k p pg rest hw pg1 d hd s hs =>
    simp only [s] at hs
    simp only [writeLoop, hw, hd, hs, if_true, if_false]
    simp [pagerStorePage, IoEvent.writeArgs]
  | case5 k p pg rest hw ih => simpa [writeLoop, hw] using ih

/-- The loop makes at most one `sqlite3OsWrite` per page of its list. -/
theorem writeLoop_writeCount_le (E : WriteEnv) (k : Nat) (p : Pager) (L : List PgHdr) :
    ((writeLoop E k p L).io.filterMap IoEvent.writeArgs).length ≤ L.length := by
  induction k, p, L using writeLoop.induct E with
  | case1 => simp [writeLoop]
  | case2 k p pg rest hw pg1 hd => simp [writeLoop, hw, hd]
  | case3 k p pg rest hw pg1 d hd s hs ih =>
    simp only [s] at hs ih
    simp only [writeLoop, hw, hd, hs, if_true]
    simpa [IoEvent.writeArgs] using ih
  | case4 k p pg rest hw pg1 d hd s hs =>
    simp only [s] at hs
    simp only [writeLoop, hw, hd, hs, if_true, if_false]
    simp [IoEvent.writeArgs]
  | case5 k p pg rest hw ih => simpa [writeLoop, hw] using Nat.le_succ_of_le ih

/-- `pager_write_pagelist` makes at most one `sqlite3OsWrite` per page of its list. -/
theorem pagerWritePagelist_writeCount_le {E : WriteEnv} {p : Pager} {L : List PgHdr} {o : WriteOut}
    (ho : pagerWritePagelist E p L = some o) : (o.io.filterMap IoEvent.writeArgs).length ≤ L.length := by
  rcases pagerWritePagelist_cases ho with ⟨-, -, rfl⟩ | ⟨fd, hs, hint, -, hhint, rfl⟩
  · simp
  · rcases hhint with rfl | ⟨sz, rfl⟩ <;>
      simpa [IoEvent.writeArgs] using writeLoop_writeCount_le E 0 { p with fd := fd, dbHintSize := hs } L

/-- For every call that returns: the counters `pager_write_pagelist` leaves are
the ones it found with `aStat[PAGER_STAT_WRITE]` advanced by the number of
`sqlite3OsWrite` calls it made, a failed write included. Opening the temporary
file and the size hint count nothing. -/
theorem pagerWritePagelist_aStat (E : WriteEnv) (p : Pager) (L : List PgHdr) (o : WriteOut)
    (ho : pagerWritePagelist E p L = some o) :
    o.pager.aStat = { p.aStat with write := p.aStat.write + (o.io.filterMap IoEvent.writeArgs).length } := by
  rcases pagerWritePagelist_cases ho with ⟨-, -, rfl⟩ | ⟨fd, hs, hint, -, hhint, rfl⟩
  · rfl
  · rcases hhint with rfl | ⟨sz, rfl⟩ <;>
      simpa [IoEvent.writeArgs] using writeLoop_aStat E 0 { p with fd := fd, dbHintSize := hs } L

end SqliteCore
