import SqliteCore.Proofs.WriteLoop

/-!
# `SqliteCore.Proofs.FileImage`: `dbFileSize` and `dbFileVers` against the file

Two fields of the pager describe the database file: `dbFileSize`, the number of
pages it holds (part 2, lines 561-575), and `dbFileVers`, a copy of bytes 24-39
of page 1 (part 2, lines 71-77). `pager_write_pagelist` keeps both (lines
188-199), for every list and every pattern of write failures.

* `writeAt` puts the written bytes at the offset (`getElem?_writeAt_add`), keeps
  every byte before it (`getD_writeAt_of_lt`), and makes the file at most as long
  as the old file or the end of the write (`length_writeAt_le`).
* `pagerWritePagelist_dbFileSize`: if the file holds at most `dbFileSize` pages
  before the call, it holds at most the new `dbFileSize` pages after it, and
  `dbFileSize` grows at most to `dbSize`. Failed writes that wrote any prefix of
  their bytes are included.
* `pagerWritePagelist_dbFileVers`: when every write succeeds, `dbFileVers` stays
  equal to bytes 24-39 of the file. It is the copy from the last image written at
  offset 0, the only offset below `pageSize` any write starts at.
* `pagerWritePagelist_readPage`: the file refines a store of page images
  (`readPage`, `storeWrites`): when every write succeeds, each page of the file
  reads as the last image written at its offset.
-/

set_option autoImplicit false

namespace SqliteCore

/-! ### The VFS write -/

/-- A write makes the file no longer than the old file or the end of the write. -/
theorem length_writeAt_le (f : List UInt8) (off : Nat) (bs : List UInt8) :
    (writeAt f off bs).length ≤ max f.length (off + bs.length) := by
  cases bs with
  | nil => exact Nat.le_max_left _ _
  | cons b bs => simp [writeAt]; omega

/-- A write keeps every byte before its offset; a gap past the old end reads as zero. -/
theorem getD_writeAt_of_lt (f : List UInt8) (off : Nat) (bs : List UInt8) (i : Nat) (h : i < off) :
    (writeAt f off bs).getD i 0 = f.getD i 0 := by
  cases bs with
  | nil => rfl
  | cons b bs =>
    simp only [writeAt, List.getD_eq_getElem?_getD]
    rw [List.getElem?_append_left (by simp; omega), List.getElem?_append_left (by simp; omega)]
    by_cases hi : i < f.length
    · rw [List.getElem?_append_left (by simp; omega), List.getElem?_take_of_lt h]
    · rw [List.getElem?_append_right (by simp; omega), List.getElem?_replicate,
        if_pos (by simp; omega), List.getElem?_eq_none (by omega)]
      rfl

/-- A write puts its bytes at its offset. -/
theorem getElem?_writeAt_add (f : List UInt8) (off : Nat) (bs : List UInt8) (i : Nat)
    (h : i < bs.length) : (writeAt f off bs)[off + i]? = bs[i]? := by
  cases bs with
  | nil => simp at h
  | cons b bs =>
    simp only [writeAt]
    rw [List.getElem?_append_left (by simp at h ⊢; omega), List.getElem?_append_right (by simp; omega)]
    congr 1; simp; omega

/-- What `sqlite3OsWrite` leaves in the file: a prefix of the first `iAmt` bytes, at the offset. -/
theorem sqlite3OsWrite_snd (r : WriteResult) (fd : Option (List UInt8)) (d : List UInt8) (n off : Nat) :
    ∃ bs : List UInt8, bs.length ≤ n ∧ (sqlite3OsWrite r fd d n off).2 = fd.map (writeAt · off bs) := by
  cases r with
  | ok => exact ⟨d.take n, List.length_take_le _ _, rfl⟩
  | err e nDone =>
    exact ⟨(d.take n).take nDone, Nat.le_trans (List.length_take_le' _ _) (List.length_take_le _ _), rfl⟩

/-- A write leaves every byte after it alone. -/
theorem getD_writeAt_of_ge (f : List UInt8) (off : Nat) (bs : List UInt8) (i : Nat)
    (h : off + bs.length ≤ i) : (writeAt f off bs).getD i 0 = f.getD i 0 := by
  cases bs with
  | nil => rfl
  | cons b bs =>
    simp only [writeAt, List.getD_eq_getElem?_getD]
    rw [List.getElem?_append_right (by simp at h ⊢; omega), List.getElem?_drop]
    congr 2; simp at h ⊢; omega

/-! ### Page offsets -/

/-- Page 1 starts at offset 0; every other page, `pgno - 1` wrapping for page 0,
starts at least one page in. -/
theorem pageOffset_cases (p : Pager) (pgno : Pgno) :
    (pgno = 1 ∧ pageOffset p pgno = 0) ∨ (pgno ≠ 1 ∧ p.pageSize ≤ pageOffset p pgno) := by
  by_cases h1 : pgno = 1
  · exact Or.inl ⟨h1, by subst h1; exact Nat.zero_mul _⟩
  refine Or.inr ⟨h1, Nat.le_mul_of_pos_left _ ?_⟩
  by_cases h0 : 1 ≤ pgno
  · rw [Pgno.toNat_sub_one h0]
    have : pgno.toNat ≠ 1 := fun h => h1 (UInt32.toNat.inj h)
    have : 1 ≤ pgno.toNat := h0
    omega
  · have : pgno = 0 := UInt32.toNat.inj (by have : pgno.toNat < 1 := Nat.lt_of_not_le h0; simp; omega)
    subst this; decide

/-- Only page 1 starts at offset 0 (`pgno - 1` wraps for page 0). -/
theorem pageOffset_eq_zero_iff (p : Pager) (pgno : Pgno) : pageOffset p pgno = 0 ↔ pgno = 1 := by
  rcases pageOffset_cases p pgno with ⟨h1, h⟩ | ⟨h1, h⟩
  · exact ⟨fun _ => h1, fun _ => h⟩
  · have := p.pageSize_ge; exact ⟨fun h0 => by omega, fun h => absurd h h1⟩

/-- Every `sqlite3OsWrite` of the loop writes `pageSize` bytes at the offset of a page. -/
theorem writeLoop_write_mem (E : WriteEnv) (k : Nat) (p : Pager) (L : List PgHdr)
    {d : List UInt8} {n off : Nat} (h : IoEvent.write d n off ∈ (writeLoop E k p L).io) :
    n = p.pageSize ∧ ∃ pgno, off = pageOffset p pgno := by
  obtain ⟨pg, -, -, hn, hoff⟩ := writeLoop_write_page E k p L h
  exact ⟨hn, pg.pgno, hoff⟩

/-! ### `dbFileSize` -/

/-- The database file holds at most `dbFileSize` pages. -/
def FileSizeBound (p : Pager) : Prop :=
  ∀ data, p.fd = some data → data.length ≤ p.dbFileSize.toNat * p.pageSize

/-- One write of lines 188-200 of a page numbered from 1 within `dbSize`, whatever
the VFS reports: the file stays within the new `dbFileSize`, which grows at most to
`pgno`. -/
theorem pagerStorePage_fileSizeBound (r : WriteResult) (p : Pager) (pgno : Pgno) (d : List UInt8)
    (hb : FileSizeBound p) (h1 : 1 ≤ pgno) :
    FileSizeBound (pagerStorePage r p pgno d).2 ∧ p.dbFileSize ≤ (pagerStorePage r p pgno d).2.dbFileSize ∧
      (pagerStorePage r p pgno d).2.dbFileSize.toNat ≤ max p.dbFileSize.toNat pgno.toNat := by
  obtain ⟨bs, hbs, hw⟩ := sqlite3OsWrite_snd r p.fd d p.pageSize (pageOffset p pgno)
  have hend := pageOffset_add_pageSize p h1
  have hfs : ((pagerStorePage r p pgno d).2.dbFileSize).toNat = max p.dbFileSize.toNat pgno.toNat := by
    simp only [pagerStorePage, gt_iff_lt, Pgno.lt_iff]; split_ifs <;> omega
  refine ⟨fun data' hd => ?_, by simp only [Pgno.le_iff, hfs]; omega, by rw [hfs]⟩
  simp only [pagerStorePage, hw] at hd
  obtain ⟨data, hdata, rfl⟩ := Option.map_eq_some'.1 hd
  have hold := hb data hdata
  calc (writeAt data (pageOffset p pgno) bs).length
      ≤ max data.length (pageOffset p pgno + bs.length) := length_writeAt_le _ _ _
    _ ≤ max (p.dbFileSize.toNat * p.pageSize) (pgno.toNat * p.pageSize) := by omega
    _ = max p.dbFileSize.toNat pgno.toNat * p.pageSize := Nat.mul_max_mul_right _ _ _
    _ = _ := by rw [← hfs]; rfl

/-- `q` comes from `p` by writes that keep the file within `dbFileSize` pages:
`dbFileSize` only grew, at most to `dbSize`, which did not change. -/
structure FileSizeGrowth (p q : Pager) : Prop where
  dbSize_eq : q.dbSize = p.dbSize
  bound : FileSizeBound q
  grows : p.dbFileSize ≤ q.dbFileSize
  within : q.dbFileSize.toNat ≤ max p.dbFileSize.toNat p.dbSize.toNat

/-- A pager within its bound relates to itself. -/
theorem FileSizeGrowth.refl {p : Pager} (h : FileSizeBound p) : FileSizeGrowth p p :=
  ⟨rfl, h, Nat.le_refl _, Nat.le_max_left _ _⟩

/-- Two growths in a row are one. -/
theorem FileSizeGrowth.trans {p q r : Pager} (h1 : FileSizeGrowth p q) (h2 : FileSizeGrowth q r) :
    FileSizeGrowth p r := by
  have := h1.within; have := h2.within; have := h1.grows; have := h2.grows
  have hq : q.dbSize.toNat = p.dbSize.toNat := congrArg UInt32.toNat h1.dbSize_eq
  refine ⟨h2.dbSize_eq.trans h1.dbSize_eq, h2.bound, Nat.le_trans h1.grows h2.grows, ?_⟩
  simp only [Pgno.le_iff] at *
  omega

/-- `pager_write_pagelist` on pages numbered from 1, whatever the VFS reports:
`FileSizeGrowth` from the pager it is given to the pager it leaves. -/
theorem pagerWritePagelist_fileSizeGrowth {E : WriteEnv} {p : Pager} {L : List PgHdr} {o : WriteOut}
    (hpgno : ∀ pg ∈ L, 1 ≤ pg.pgno) (hb : FileSizeBound p) (ho : pagerWritePagelist E p L = some o) :
    FileSizeGrowth p o.pager := by
  have step : ∀ i q pg d, i < L.length → pg ∈ L → FileSizeGrowth p q → pageWritten q pg = true →
      codec2 E.xCodec (changecounterIfPage1 E q pg).pData pg.pgno 6 = some d →
      FileSizeGrowth p (pagerStorePage (E.xWrite i) q pg.pgno d).2 := by
    intro i q pg d _ hpg hq hw _
    have hle : pg.pgno.toNat ≤ q.dbSize.toNat := (by simpa [pageWritten] using hw : _ ∧ _).1
    obtain ⟨h1, h2, h3⟩ := pagerStorePage_fileSizeBound (E.xWrite i) q pg.pgno d hq.bound (hpgno pg hpg)
    exact hq.trans ⟨rfl, h1, h2, Nat.le_trans h3 (by omega)⟩
  rcases pagerWritePagelist_cases ho with ⟨-, -, rfl⟩ | ⟨fd, hs, hint, hfd, -, rfl⟩
  · exact FileSizeGrowth.refl hb
  refine writeLoop_preserves E (FileSizeGrowth p) L step 0 _ L (fun _ h => h) (by simp)
    ⟨rfl, fun data hd => ?_, Nat.le_refl _, Nat.le_max_left _ _⟩
  rcases hfd with rfl | ⟨-, rfl⟩
  · exact hb data hd
  · cases hd; exact Nat.zero_le _

/-- For every list of pages numbered from 1 and every pattern of write failures,
each failed write having written any prefix of its bytes: if the database file
holds at most `dbFileSize` pages before `pager_write_pagelist`, it holds at most
the new `dbFileSize` pages after it, and `dbFileSize` only grows, at most to
`dbSize`. -/
theorem pagerWritePagelist_dbFileSize (E : WriteEnv) (p : Pager) (L : List PgHdr)
    (hpgno : ∀ pg ∈ L, 1 ≤ pg.pgno) (hb : FileSizeBound p) (o : WriteOut)
    (ho : pagerWritePagelist E p L = some o) :
    FileSizeBound o.pager ∧ p.dbFileSize ≤ o.pager.dbFileSize ∧
      o.pager.dbFileSize.toNat ≤ max p.dbFileSize.toNat p.dbSize.toNat :=
  let h := pagerWritePagelist_fileSizeGrowth hpgno hb ho
  ⟨h.bound, h.grows, h.within⟩

/-- Page 2 grows a file of one page, and its write fails after 100 bytes
(`SQLITE_IOERR_WRITE`). -/
theorem pagerWritePagelist_dbFileSize_short_write :
    ∃ (E : WriteEnv) (p : Pager) (L : List PgHdr) (o : WriteOut), (∀ pg ∈ L, 1 ≤ pg.pgno) ∧
      FileSizeBound p ∧ pagerWritePagelist E p L = some o ∧ FileSizeBound o.pager := by
  let E := WriteEnv.shortWrite
  let p : Pager :=
    { Pager.blank with
      eState := .WRITER_DBMOD, eLock := EXCLUSIVE_LOCK, dbSize := 2, dbFileSize := 1, dbHintSize := 1,
      fd := some (List.replicate 512 0) }
  let pg : PgHdr := ⟨2, ⟨true, false, false⟩, List.replicate 512 0, none, 0⟩
  have hpgno : ∀ x ∈ [pg], 1 ≤ x.pgno := by decide
  have hb : FileSizeBound p := fun data h => by
    cases h; rw [List.length_replicate]; decide
  obtain ⟨o, ho⟩ := Option.isSome_iff_exists.1 (pagerWritePagelist_isSome E p pg [])
  exact ⟨E, p, [pg], o, hpgno, hb, ho, (pagerWritePagelist_dbFileSize E p [pg] hpgno hb o ho).1⟩

/-! ### `dbFileVers` -/

/-- Bytes 24-39 of a database file, the change counter and the fields after it,
as a read returns them: past the end of the file the buffer reads as zeros. -/
def fileVers (data : List UInt8) : List UInt8 := (List.range 16).map fun i => data.getD (24 + i) 0

/-- A write that starts at byte 40 or later leaves bytes 24-39 alone. -/
theorem fileVers_writeAt_of_le (f : List UInt8) (off : Nat) (bs : List UInt8) (h : 40 ≤ off) :
    fileVers (writeAt f off bs) = fileVers f :=
  List.map_congr_left fun i hi => getD_writeAt_of_lt f off bs _ (by simp at hi; omega)

/-- A write of at least 40 bytes at offset 0 sets bytes 24-39 to its own. -/
theorem fileVers_writeAt_zero (f : List UInt8) (bs : List UInt8) (h : 40 ≤ bs.length) :
    fileVers (writeAt f 0 bs) = (bs.drop 24).take 16 := by
  apply List.ext_getElem?
  intro n
  simp only [fileVers, List.getElem?_map, List.getElem?_take, List.getElem?_drop]
  by_cases hn : n < 16
  · obtain ⟨x, hx⟩ : ∃ x, bs[24 + n]? = some x := ⟨_, List.getElem?_eq_getElem (by omega)⟩
    have hw := getElem?_writeAt_add f 0 bs (24 + n) (by omega)
    rw [Nat.zero_add, hx] at hw
    simp [List.getElem?_range hn, hn, List.getD_eq_getElem?_getD, hw, hx]
  · have h16 : (List.range 16)[n]? = none := List.getElem?_eq_none (by simp; omega)
    simp [hn, h16]

/-- The page images that reach the VFS are whole pages of `n` bytes: the change
counter stamp and the codec keep the length of an image. -/
structure WriteEnv.KeepsPageSize (E : WriteEnv) (n : Nat) : Prop where
  changecounter : ∀ q d, d.length = n → (E.pagerWriteChangecounter q d).length = n
  codec : ∀ d pgno d', d.length = n → codec2 E.xCodec d pgno 6 = some d' → d'.length = n

/-- A codec and a change-counter stamp that keep the page size give a whole page to write. -/
theorem WriteEnv.KeepsPageSize.image {E : WriteEnv} {n : Nat} (hE : E.KeepsPageSize n) {q : Pager}
    {pg : PgHdr} {d : List UInt8} (hpg : pg.pData.length = n)
    (hd : codec2 E.xCodec (changecounterIfPage1 E q pg).pData pg.pgno 6 = some d) : d.length = n := by
  refine hE.codec _ _ _ ?_ hd
  unfold changecounterIfPage1; split
  · exact hE.changecounter q _ hpg
  · exact hpg

/-- Without a codec and with the stamp as the identity, every image keeps its size. -/
theorem WriteEnv.allOk_keepsPageSize (n : Nat) : WriteEnv.allOk.KeepsPageSize n :=
  ⟨fun _ _ h => h, fun _ _ _ h hd => by simp [WriteEnv.allOk, codec2] at hd; exact hd ▸ h⟩

/-- A write of lines 188-200 that succeeds with a whole page keeps `dbFileVers` equal
to bytes 24-39 of the file: page 1 copies them from the image it writes there,
and every other page is written past them. -/
theorem pagerStorePage_fileVers (p : Pager) (pgno : Pgno) (d : List UInt8) (data : List UInt8)
    (hfd : p.fd = some data) (hvers : p.dbFileVers = fileVers data) (hd : d.length = p.pageSize) :
    ∃ data', (pagerStorePage .ok p pgno d).2.fd = some data' ∧
      (pagerStorePage .ok p pgno d).2.dbFileVers = fileVers data' := by
  have hps := p.pageSize_ge
  refine ⟨writeAt data (pageOffset p pgno) d,
    by simp [pagerStorePage, sqlite3OsWrite, hfd, List.take_of_length_le (Nat.le_of_eq hd)], ?_⟩
  simp only [pagerStorePage]
  rcases pageOffset_cases p pgno with ⟨h1, h0⟩ | ⟨h1, hge⟩
  · rw [if_pos h1, h0, fileVers_writeAt_zero _ _ (by omega)]
  · rw [if_neg h1, hvers, fileVers_writeAt_of_le _ _ _ (by omega)]

/-- The images written at offset 0, in order. -/
def page1Images (io : List IoEvent) : List (List UInt8) :=
  io.filterMap fun
    | .write d _ 0 => some d
    | _ => none

/-- The page-1 images of two runs of calls are those of each in turn. -/
theorem page1Images_append (a b : List IoEvent) :
    page1Images (a ++ b) = page1Images a ++ page1Images b :=
  List.filterMap_append _ _ _

/-- After the loop, `dbFileVers` is bytes 24-39 of the last image written at offset 0,
or what it was if no write started there, whatever the VFS reports. -/
theorem writeLoop_dbFileVers (E : WriteEnv) (k : Nat) (p : Pager) (L : List PgHdr) :
    (writeLoop E k p L).pager.dbFileVers =
      ((page1Images (writeLoop E k p L).io).getLast?.map fun d => (d.drop 24).take 16).getD p.dbFileVers := by
  have hev : ∀ (d d' : List UInt8) (n off : Nat) (pgno : Pgno),
      page1Images [.write d n off, .backupUpdate pgno d'] = if off = 0 then [d] else [] := by
    intro d d' n off pgno; cases off <;> rfl
  have hvers : ∀ (r : WriteResult) (q : Pager) (pgno : Pgno) (d : List UInt8),
      (pagerStorePage r q pgno d).2.dbFileVers =
        (((if pageOffset q pgno = 0 then [d] else []).getLast?.map fun d => (d.drop 24).take 16).getD
          q.dbFileVers) := by
    intro r q pgno d
    simp only [pagerStorePage, pageOffset_eq_zero_iff]
    split_ifs <;> rfl
  induction k, p, L using writeLoop.induct E with
  | case1 => rfl
  | case2 k p pg rest hw pg1 hd => simp [writeLoop, hw, hd, page1Images]
  | case3 k p pg rest hw pg1 d hd s hok ih =>
    simp only [s] at hok ih
    simp only [writeLoop, hw, hd, hok, if_true]
    rw [page1Images_append, hev, List.getLast?_append, ih, hvers]
    cases (page1Images (writeLoop E (k + 1) (pagerStorePage (E.xWrite k) p pg.pgno d).2 rest).io).getLast?
      <;> rfl
  | case4 k p pg rest hw pg1 d hd s hok =>
    simp only [s] at hok
    simp only [writeLoop, hw, hd, hok, if_true, if_false]
    rw [hev, hvers]
  | case5 k p pg rest hw ih => simpa [writeLoop, hw] using ih

/-- On whole page images, with every write succeeding, `pager_write_pagelist` keeps
`dbFileVers` equal to bytes 24-39 of an open database file. -/
theorem pagerWritePagelist_fileVers {E : WriteEnv} {p : Pager} {L : List PgHdr} {o : WriteOut}
    (ho : pagerWritePagelist E p L = some o) {data : List UInt8} (hfd : p.fd = some data)
    (hvers : p.dbFileVers = fileVers data) (hE : E.KeepsPageSize p.pageSize)
    (himg : ∀ pg ∈ L, pg.pData.length = p.pageSize) (hok : ∀ k < L.length, E.xWrite k = .ok) :
    ∃ data', o.pager.fd = some data' ∧ o.pager.dbFileVers = fileVers data' := by
  obtain ⟨hs, hint, -, rfl⟩ := pagerWritePagelist_of_fd ho hfd
  let Inv : Pager → Prop := fun q =>
    q.pageSize = p.pageSize ∧ ∃ data, q.fd = some data ∧ q.dbFileVers = fileVers data
  have step : ∀ i q pg d, i < L.length → pg ∈ L → Inv q → pageWritten q pg = true →
      codec2 E.xCodec (changecounterIfPage1 E q pg).pData pg.pgno 6 = some d →
      Inv (pagerStorePage (E.xWrite i) q pg.pgno d).2 := by
    intro i q pg d hi hpg ⟨hps, data, hq, hv⟩ _ hd
    rw [hok i hi]
    exact ⟨hps, pagerStorePage_fileVers q pg.pgno d data hq hv (hps ▸ hE.image (himg pg hpg) hd)⟩
  exact (writeLoop_preserves E Inv L step 0 { p with dbHintSize := hs } L (fun _ h => h)
    (by simp) ⟨rfl, data, hfd, hvers⟩).2

/-- For a list of whole page images, with every write succeeding: if `dbFileVers`
equals bytes 24-39 of the database file before `pager_write_pagelist`, it equals them
after it. It is then bytes 24-39 of the last image written at offset 0 (the last
copy of page 1 in the list), or the old value if there was none; every other write
starts a page or more into the file. -/
theorem pagerWritePagelist_dbFileVers (E : WriteEnv) (p : Pager) (L : List PgHdr) (data : List UInt8)
    (hfd : p.fd = some data) (hvers : p.dbFileVers = fileVers data) (hE : E.KeepsPageSize p.pageSize)
    (himg : ∀ pg ∈ L, pg.pData.length = p.pageSize) (hok : ∀ k < L.length, E.xWrite k = .ok)
    (o : WriteOut) (ho : pagerWritePagelist E p L = some o) :
    (∃ data', o.pager.fd = some data' ∧ o.pager.dbFileVers = fileVers data') ∧
      o.pager.dbFileVers =
        ((page1Images o.io).getLast?.map fun d => (d.drop 24).take 16).getD p.dbFileVers ∧
      ∀ d n off, IoEvent.write d n off ∈ o.io → off = 0 ∨ p.pageSize ≤ off := by
  refine ⟨pagerWritePagelist_fileVers ho hfd hvers hE himg hok, ?_⟩
  obtain ⟨hs, hint, hhint, rfl⟩ := pagerWritePagelist_of_fd ho hfd
  have hhint' : page1Images hint = [] ∧ ∀ d n off, IoEvent.write d n off ∉ hint := by
    rcases hhint with rfl | ⟨sz, rfl⟩ <;> simp [page1Images]
  refine ⟨?_, fun d n off hmem => ?_⟩
  · simp only [page1Images, List.filterMap_append] at hhint' ⊢
    rw [hhint'.1, List.nil_append]
    exact writeLoop_dbFileVers E 0 _ L
  · rcases List.mem_append.1 hmem with h | h
    · exact absurd h (hhint'.2 d n off)
    · obtain ⟨-, pgno, rfl⟩ := writeLoop_write_mem E 0 _ L h
      rcases pageOffset_cases p pgno with ⟨-, h0⟩ | ⟨-, hge⟩
      exacts [Or.inl h0, Or.inr hge]

/-- Page 1 written to a new, empty database file. -/
theorem pagerWritePagelist_dbFileVers_page1 :
    ∃ (p : Pager) (L : List PgHdr) (data : List UInt8) (o : WriteOut),
      p.fd = some data ∧ p.dbFileVers = fileVers data ∧ WriteEnv.allOk.KeepsPageSize p.pageSize ∧
      (∀ pg ∈ L, pg.pData.length = p.pageSize) ∧ pagerWritePagelist WriteEnv.allOk p L = some o ∧
      ∃ data', o.pager.fd = some data' ∧ o.pager.dbFileVers = fileVers data' := by
  let p : Pager :=
    { Pager.blank with
      eState := .WRITER_DBMOD, eLock := EXCLUSIVE_LOCK, dbSize := 1, dbHintSize := 1, fd := some [] }
  let pg : PgHdr := ⟨1, ⟨true, false, false⟩, List.replicate 512 7, none, 0⟩
  have hvers : p.dbFileVers = fileVers [] := by decide
  have hE := WriteEnv.allOk_keepsPageSize p.pageSize
  have himg : ∀ x ∈ [pg], x.pData.length = p.pageSize := by
    intro x hx; rw [List.mem_singleton.1 hx]; exact List.length_replicate 512 7
  obtain ⟨o, ho⟩ := Option.isSome_iff_exists.1 (pagerWritePagelist_isSome WriteEnv.allOk p pg [])
  exact ⟨p, [pg], _, o, rfl, hvers, hE, himg, ho,
    (pagerWritePagelist_dbFileVers _ p [pg] _ rfl hvers hE himg (fun _ _ => rfl) o ho).1⟩

/-! ### The pages of the file -/

/-- Page `j` (from 0) of a database file of `sz`-byte pages, as a read returns it:
past the end of the file the buffer reads as zeros. -/
def readPage (data : List UInt8) (sz j : Nat) : List UInt8 :=
  (List.range sz).map fun i => data.getD (j * sz + i) 0

/-- A write of page `j` with the image `d` into a store of page images. -/
def PageStore.write (s : Nat → List UInt8) (j : Nat) (d : List UInt8) : Nat → List UInt8 :=
  fun i => if i = j then d else s i

/-- The store of page images after the `sqlite3OsWrite` calls of `io`, in order:
a write at `off` replaces page `off / sz`. -/
def storeWrites (sz : Nat) (s : Nat → List UInt8) : List IoEvent → Nat → List UInt8
  | [] => s
  | .write d _ off :: rest => storeWrites sz (PageStore.write s (off / sz) d) rest
  | _ :: rest => storeWrites sz s rest

/-- Replaying two runs of writes is replaying one after the other. -/
theorem storeWrites_append (sz : Nat) (s : Nat → List UInt8) (a b : List IoEvent) :
    storeWrites sz s (a ++ b) = storeWrites sz (storeWrites sz s a) b := by
  induction a generalizing s with
  | nil => rfl
  | cons e a ih => cases e <;> exact ih _

/-- A write of at most a page at the start of page `k` leaves every other page as
it reads. -/
theorem readPage_writeAt_of_ne (f : List UInt8) (sz k : Nat) (bs : List UInt8) (h : bs.length ≤ sz)
    (j : Nat) (hj : j ≠ k) : readPage (writeAt f (k * sz) bs) sz j = readPage f sz j := by
  apply List.map_congr_left
  intro i hi
  rw [List.mem_range] at hi
  rcases Nat.lt_or_gt_of_ne hj with hlt | hgt
  · have := Nat.mul_le_mul_right sz (show j + 1 ≤ k by omega)
    rw [Nat.add_mul, Nat.one_mul] at this
    exact getD_writeAt_of_lt f _ bs _ (by omega)
  · have := Nat.mul_le_mul_right sz (show k + 1 ≤ j by omega)
    rw [Nat.add_mul, Nat.one_mul] at this
    exact getD_writeAt_of_ge f _ bs _ (by omega)

/-- Writing a whole page at the start of page `k` replaces page `k` of the file and
leaves every other page as it reads. -/
theorem readPage_writeAt (f : List UInt8) (sz k : Nat) (bs : List UInt8) (h : bs.length = sz) :
    readPage (writeAt f (k * sz) bs) sz = PageStore.write (readPage f sz) k bs := by
  funext j
  rw [PageStore.write]
  split
  · next hj =>
    subst hj
    apply List.ext_getElem?
    intro i
    rw [readPage, List.getElem?_map]
    by_cases hi : i < sz
    · rw [List.getElem?_range hi, Option.map_some', List.getD_eq_getElem?_getD,
        getElem?_writeAt_add f _ bs i (by omega), List.getElem?_eq_getElem (by omega)]
      rfl
    · rw [List.getElem?_eq_none (by simp; omega), List.getElem?_eq_none (by omega)]
      rfl
  · next hj => exact readPage_writeAt_of_ne f sz k bs (Nat.le_of_eq h) j hj

/-- A write of lines 188-200, whatever the VFS reports, changes at most page
`pgno - 1` of the file: it writes at most `pageSize` bytes at its start. -/
theorem pagerStorePage_readPage_of_ne (r : WriteResult) (q : Pager) (pgno : Pgno) (img : List UInt8)
    {d : List UInt8} (hfd : q.fd = some d) :
    ∃ d', (pagerStorePage r q pgno img).2.fd = some d' ∧
      ∀ j, j ≠ (pgno - 1).toNat → readPage d' q.pageSize j = readPage d q.pageSize j := by
  obtain ⟨bs, hbs, h⟩ := sqlite3OsWrite_snd r q.fd img q.pageSize (pageOffset q pgno)
  refine ⟨writeAt d (pageOffset q pgno) bs, ?_, readPage_writeAt_of_ne d q.pageSize _ bs hbs⟩
  show (sqlite3OsWrite r q.fd img q.pageSize (pageOffset q pgno)).2 = _
  rw [h, hfd]; rfl

/-- `pager_write_pagelist` on an open file, whatever the VFS reports, changes at most
the pages of the listed pages. -/
theorem pagerWritePagelist_readPage_of_not_mem {E : WriteEnv} {p : Pager} {L : List PgHdr}
    {o : WriteOut} (ho : pagerWritePagelist E p L = some o) {data : List UInt8} (hfd : p.fd = some data) :
    ∃ data', o.pager.fd = some data' ∧ ∀ j, (∀ pg ∈ L, (pg.pgno - 1).toNat ≠ j) →
      readPage data' p.pageSize j = readPage data p.pageSize j := by
  obtain ⟨hs, hint, -, rfl⟩ := pagerWritePagelist_of_fd ho hfd
  let Inv : Pager → Prop := fun q => q.pageSize = p.pageSize ∧ ∃ d, q.fd = some d ∧
    ∀ j, (∀ pg ∈ L, (pg.pgno - 1).toNat ≠ j) → readPage d p.pageSize j = readPage data p.pageSize j
  have step : ∀ i q pg d, i < L.length → pg ∈ L → Inv q → pageWritten q pg = true →
      codec2 E.xCodec (changecounterIfPage1 E q pg).pData pg.pgno 6 = some d →
      Inv (pagerStorePage (E.xWrite i) q pg.pgno d).2 := by
    rintro i q pg img - hpg ⟨hps, d, hq, hd⟩ - -
    obtain ⟨d', h1, h2⟩ := pagerStorePage_readPage_of_ne (E.xWrite i) q pg.pgno img hq
    rw [hps] at h2
    exact ⟨hps, d', h1, fun j hj => (h2 j (hj pg hpg).symm).trans (hd j hj)⟩
  exact (writeLoop_preserves E Inv L step 0 { p with dbHintSize := hs } L (fun _ h => h) (by simp)
    ⟨rfl, data, hfd, fun _ _ => rfl⟩).2

/-- The loop with every write succeeding, on whole page images: the pages of the
file afterwards are the store of the pages before it after the loop's writes. -/
theorem writeLoop_readPage (E : WriteEnv) (sz : Nat) (hE : E.KeepsPageSize sz) (k : Nat) (p : Pager)
    (L : List PgHdr) (hps : p.pageSize = sz) (data : List UInt8) (hfd : p.fd = some data)
    (himg : ∀ pg ∈ L, pg.pData.length = sz) (hok : ∀ i, k ≤ i → i < k + L.length → E.xWrite i = .ok) :
    ∃ data', (writeLoop E k p L).pager.fd = some data' ∧
      readPage data' sz = storeWrites sz (readPage data sz) (writeLoop E k p L).io := by
  induction k, p, L using writeLoop.induct E generalizing data with
  | case1 => exact ⟨data, hfd, rfl⟩
  | case2 k p pg rest hw pg1 hd =>
    exact ⟨data, by simpa [writeLoop, hw, hd] using hfd, by simp [writeLoop, hw, hd, storeWrites]⟩
  | case3 k p pg rest hw pg1 d hd s hs ih =>
    simp only [s] at hs ih
    have hx : E.xWrite k = .ok := hok k (Nat.le_refl _) (by simp)
    have hlen : d.length = sz := hE.image (himg pg (List.mem_cons_self _ _)) hd
    have hfd' : (pagerStorePage (E.xWrite k) p pg.pgno d).2.fd = some (writeAt data (pageOffset p pg.pgno) d) := by
      simp [pagerStorePage, sqlite3OsWrite, hx, hfd, hps, List.take_of_length_le (Nat.le_of_eq hlen)]
    obtain ⟨data', h1, h2⟩ := ih (by simpa using hps) _ hfd'
      (fun x hx => himg x (List.mem_cons_of_mem _ hx)) (fun i h1 h2 => hok i (by omega) (by simp; omega))
    refine ⟨data', by simpa [writeLoop, hw, hd, hs] using h1, ?_⟩
    simp only [writeLoop, hw, hd, hs, if_true, storeWrites_append]
    rw [h2, pageOffset, hps, readPage_writeAt _ _ _ _ hlen]
    have hsz : 0 < sz := hps ▸ Nat.lt_of_lt_of_le (by decide) p.pageSize_ge
    simp only [storeWrites, Nat.mul_div_cancel _ hsz]
  | case4 k p pg rest hw pg1 d hd s hs =>
    simp only [s] at hs
    exact absurd (sqlite3OsWrite_fst_eq_ok.2 (hok k (Nat.le_refl _) (by simp))) hs
  | case5 k p pg rest hw ih =>
    simpa [writeLoop, hw] using ih hps data hfd (fun x hx => himg x (List.mem_cons_of_mem _ hx))
      (fun i h1 h2 => hok i h1 (by simp; omega))

/-- For a list of whole page images, with every write succeeding: after
`pager_write_pagelist` each page of the database file reads as the last image
written at its offset, or as it read before if none was. With
`pagerWritePagelist_writes`, which says which writes are made, the file then holds
the last copy of each page of the list within `dbSize` and not marked
`PGHDR_DONT_WRITE`. -/
theorem pagerWritePagelist_readPage (E : WriteEnv) (p : Pager) (L : List PgHdr) (data : List UInt8)
    (hfd : p.fd = some data) (hE : E.KeepsPageSize p.pageSize)
    (himg : ∀ pg ∈ L, pg.pData.length = p.pageSize) (hok : ∀ k < L.length, E.xWrite k = .ok)
    (o : WriteOut) (ho : pagerWritePagelist E p L = some o) :
    ∃ data', o.pager.fd = some data' ∧
      readPage data' p.pageSize = storeWrites p.pageSize (readPage data p.pageSize) o.io := by
  obtain ⟨hs, hint, hhint, rfl⟩ := pagerWritePagelist_of_fd ho hfd
  obtain ⟨data', h1, h2⟩ := writeLoop_readPage E p.pageSize hE 0 { p with dbHintSize := hs } L
    rfl data hfd himg (fun i _ hi => hok i (by simpa using hi))
  refine ⟨data', h1, ?_⟩
  rw [storeWrites_append]
  rcases hhint with rfl | ⟨sz, rfl⟩ <;> exact h2

/-- Page 1 written to a new, empty database file. -/
theorem pagerWritePagelist_readPage_page1 :
    ∃ (p : Pager) (L : List PgHdr) (data : List UInt8) (o : WriteOut),
      p.fd = some data ∧ WriteEnv.allOk.KeepsPageSize p.pageSize ∧
      (∀ pg ∈ L, pg.pData.length = p.pageSize) ∧ (∀ k < L.length, WriteEnv.allOk.xWrite k = .ok) ∧
      pagerWritePagelist WriteEnv.allOk p L = some o ∧
      ∃ data', o.pager.fd = some data' ∧
        readPage data' p.pageSize = storeWrites p.pageSize (readPage data p.pageSize) o.io := by
  let p : Pager :=
    { Pager.blank with
      eState := .WRITER_DBMOD, eLock := EXCLUSIVE_LOCK, dbSize := 1, dbHintSize := 1, fd := some [] }
  let pg : PgHdr := ⟨1, ⟨true, false, false⟩, List.replicate 512 7, none, 0⟩
  have hE := WriteEnv.allOk_keepsPageSize p.pageSize
  have himg : ∀ x ∈ [pg], x.pData.length = p.pageSize := by
    intro x hx; rw [List.mem_singleton.1 hx]; exact List.length_replicate 512 7
  obtain ⟨o, ho⟩ := Option.isSome_iff_exists.1 (pagerWritePagelist_isSome WriteEnv.allOk p pg [])
  exact ⟨p, [pg], _, o, rfl, hE, himg, fun _ _ => rfl, ho,
    pagerWritePagelist_readPage _ p [pg] _ rfl hE himg (fun _ _ => rfl) o ho⟩

end SqliteCore
