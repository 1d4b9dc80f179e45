import SqliteCore.Proofs.Spills

/-!
# `SqliteCore.Proofs.RunSafety`: every write of a run of spills is made safely

Design rules (1) and (12) of the pager (part 2, lines 27-34 and 82-83) say that a
page of the database file is overwritten only once its journal record is synced,
and only under an `EXCLUSIVE` lock. For one spill, `SpillRun.write_after_sync`
shows that the call `pagerStress` makes to `pager_write_pagelist` meets the
`assert`s that stand for them (lines 141-144 and 181) on a pager that keeps its
state invariants. This module carries that over every run of spills.

* `pagerStress_spillReady`: one spill keeps `SpillReady`, the state invariants of
  part 2 (lines 212-238) that bear on dirty pages, or a latched error, given what
  `syncJournal` (not under `src/`) does on success and on failure.
* `stressTrace_writes_safe`: over every run of spills of dirty pages from a pager
  that is `SpillReady`, every `pager_write_pagelist` call of every spill gets one
  page with `PGHDR_NEED_SYNC` clear, from a rollback pager in `WRITER_DBMOD` (or a
  temporary one) that holds `EXCLUSIVE_LOCK`.
-/

set_option autoImplicit false

namespace SqliteCore

section
variable {σ : Type}

/-- What `syncJournal` leaves when it fails: `eState` as it was, and the lock as it
was or `EXCLUSIVE_LOCK` (`sqlite3PagerExclusiveLock` is its first step). -/
def SyncJournalFailsSafe (E : StressEnv σ) : Prop :=
  ∀ q w, (E.syncJournal q w).rc ≠ SQLITE_OK →
    (E.syncJournal q w).eState = q.eState ∧
      ((E.syncJournal q w).eLock = q.eLock ∨ (E.syncJournal q w).eLock = EXCLUSIVE_LOCK)

end

/-- `StressEnv.allOk` changes no state when its `syncJournal` fails. -/
theorem StressEnv.allOk_failsSafe (io : WriteEnv) : SyncJournalFailsSafe (StressEnv.allOk io) := by
  intro q _ h
  by_cases hq : q.eState = .WRITER_CACHEMOD ∨ q.eState = .WRITER_DBMOD
  · simp [StressEnv.allOk, hq, SQLITE_OK] at h
  · simp [StressEnv.allOk, hq]

/-- The state invariants of part 2 (lines 212-238) that bear on a dirty page, for the
pager as a whole: a pager with dirty pages is a writer (`WRITER_CACHEMOD` or
`WRITER_DBMOD`) or a temporary one, and one in `WRITER_DBMOD`, or a temporary one,
holds `EXCLUSIVE_LOCK`. -/
structure WriterState (p : Pager) : Prop where
  writer : p.tempFile = true ∨ p.eState = .WRITER_CACHEMOD ∨ p.eState = .WRITER_DBMOD
  exclusive : p.tempFile = true ∨ p.eState = .WRITER_DBMOD → p.eLock = EXCLUSIVE_LOCK

/-- A pager the page cache may call `xStress` on: it has latched an error, so every
spill is refused (line 53), or it keeps `WriterState`. -/
def SpillReady (p : Pager) : Prop := p.errCode ≠ 0 ∨ WriterState p

/-- A pager in a writer state keeps the state invariants for every page. -/
theorem WriterState.pagerInvariant {p : Pager} (h : WriterState p) (pg : PgHdr) : PagerInvariant p pg :=
  ⟨fun _ => h.writer, h.exclusive⟩

section
variable {σ : Type} {E : StressEnv σ} {p : Pager} {pg : PgHdr} {w : σ} {o : StressOut σ}

/-- `pager_error` latches a non-zero code, or changes nothing. -/
theorem pagerError_cases (q : Pager) (rc : Nat) :
    (pagerError q rc).errCode ≠ 0 ∨ pagerError q rc = q := by
  unfold pagerError; split
  · next h => simp only [SQLITE_IOERR, SQLITE_FULL] at h; exact Or.inl (show rc ≠ 0 by omega)
  · exact Or.inr rfl

/-- A run of lines 64-92 keeps `WriterState`, given what `syncJournal` does on success
(`SyncJournalContract`) and on failure (`SyncJournalFailsSafe`). -/
theorem SpillRun.writerState (h : SpillRun E p pg w o) (hc : SyncJournalContract E)
    (hf : SyncJournalFailsSafe E) (hp : WriterState p) : WriterState o.pager := by
  cases h with
  | subjournalFails | walFrames | journalFails => exact ⟨hp.writer, hp.exclusive⟩
  | write _ _ _ _ _ _ hw =>
    obtain ⟨_, _, _, _, _, h⟩ := pagerWritePagelist_pager_eq hw
    rw [h]; exact ⟨hp.writer, hp.exclusive⟩
  | syncFails _ _ w' _ _ hs =>
    obtain ⟨he, hl⟩ := hf p w' hs
    refine ⟨by simpa [SyncResult.pager, he] using hp.writer, fun h => ?_⟩
    simp only [SyncResult.pager, he] at h ⊢
    rcases hl with hl | hl <;> rw [hl]
    exact hp.exclusive h
  | syncWrite _ _ w' _ _ hs _ hw =>
    obtain ⟨_, _, _, _, _, h⟩ := pagerWritePagelist_pager_eq hw
    obtain ⟨hl, -, he⟩ := hc p w' hs
    rw [h]
    exact ⟨Or.inr (Or.inr (by simp [SyncResult.pager, he])), fun _ => by simp [SyncResult.pager, hl]⟩

/-- One spill keeps `SpillReady`: a refused spill changes nothing, a failure that
`pager_error` latches sets `errCode`, and otherwise the state moves as `SpillRun`
allows. -/
theorem pagerStress_spillReady (h : pagerStress E p pg w = some o) (hc : SyncJournalContract E)
    (hf : SyncJournalFailsSafe E) (hp : SpillReady p) : SpillReady o.pager := by
  by_cases hr : SpillRefused p pg
  · rw [pagerStress_of_refused E w hr] at h; cases h; exact hp
  obtain ⟨o', hrun, hps⟩ := pagerStress_run E w hr
  rw [hps] at h; cases h
  have he : p.errCode = 0 := by simp only [SpillRefused, not_or, not_not] at hr; exact hr.1
  rw [stressFinish_pager]
  rcases pagerError_cases o'.pager o'.rc with hl | hl
  · exact Or.inl hl
  · rw [hl]
    have hw := hp.resolve_left (not_not.2 he)
    exact Or.inr (hrun.writerState hc hf ⟨hw.writer, hw.exclusive⟩)

/-- One spill of a dirty page from a pager that keeps `PagerInvariant`, with a
`syncJournal` that keeps its contract: every `pager_write_pagelist` call it makes
meets the `assert`s of lines 141-144 and 181, on the one page with
`PGHDR_NEED_SYNC` clear. -/
theorem pagerStress_write_calls (h : pagerStress E p pg w = some o) (hE : SyncJournalContract E)
    (hinv : PagerInvariant p pg) (hdirty : pg.flags.dirty = true) :
    ∀ q l rc, StressCall.pagerWritePagelist q l rc ∈ o.calls →
      WritePagelistEntry q l ∧ WritePagelistPage q l ∧ ∃ pg', l = [pg'] ∧ pg'.flags.needSync = false := by
  by_cases hr : SpillRefused p pg
  · rw [pagerStress_of_refused E w hr] at h; cases h; simp
  obtain ⟨o', hrun, hps⟩ := pagerStress_run E w hr
  rw [hps] at h; cases h
  intro q l rc hc
  have hc' : StressCall.pagerWritePagelist q l rc ∈ o'.calls := by
    rw [stressFinish_calls] at hc
    split_ifs at hc <;> simpa using hc
  have hwal : pagerUseWal p = false := by
    cases hw : pagerUseWal p
    · rfl
    · exact absurd ((hrun.wal_only hw).1 _ hc').2 (by simp [StressCall.isWritePagelist])
  obtain ⟨h1, h2, pg', h3, -, h4, -⟩ :=
    hrun.write_after_sync hE hwal ⟨hinv.dirty_state, hinv.exclusive⟩ hdirty rfl q l rc hc'
  exact ⟨h1, h2, pg', h3, h4⟩

end

/-! ### Runs with their calls -/

section
variable {σ : Type}

/-- Modelled from the spec (§4.4), as `stressRun`: the page-cache manager calls
`xStress` for each victim in turn; with the calls each spill makes, in order. -/
def stressTrace : Pager → σ → List (StressEnv σ × PgHdr) → Option (Pager × σ × List StressCall)
  | p, w, [] => some (p, w, [])
  | p, w, (E, pg) :: rest =>
    (pagerStress E p pg w).bind fun o =>
      (stressTrace o.pager o.world rest).map fun r => (r.1, r.2.1, o.calls ++ r.2.2)

/-- One spill of a run with its calls, then the rest of the run. -/
theorem stressTrace_cons_eq_some {E : StressEnv σ} {pg : PgHdr} {rest : List (StressEnv σ × PgHdr)}
    {p : Pager} {w : σ} {q : Pager} {w' : σ} {cs : List StressCall}
    (h : stressTrace p w ((E, pg) :: rest) = some (q, w', cs)) :
    ∃ o, pagerStress E p pg w = some o ∧
      ∃ cs', stressTrace o.pager o.world rest = some (q, w', cs') ∧ cs = o.calls ++ cs' := by
  simp only [stressTrace, Option.bind_eq_some, Option.map_eq_some'] at h
  obtain ⟨o, ho, ⟨q', w'', cs'⟩, hr, he⟩ := h
  simp only [Prod.mk.injEq] at he
  obtain ⟨rfl, rfl, rfl⟩ := he
  exact ⟨o, ho, cs', hr, rfl⟩

/-- A run with its calls ends where the run does. -/
theorem stressTrace_run (reqs : List (StressEnv σ × PgHdr)) :
    ∀ (p : Pager) (w : σ) (q : Pager) (w' : σ) (cs : List StressCall),
      stressTrace p w reqs = some (q, w', cs) → stressRun p w reqs = some (q, w') := by
  induction reqs with
  | nil => intro p w q w' cs h; cases h; rfl
  | cons r rest ih =>
    intro p w q w' cs h
    obtain ⟨o, ho, cs', hr, -⟩ := stressTrace_cons_eq_some h
    simp only [stressRun, ho, Option.some_bind]
    exact ih o.pager o.world _ _ cs' hr

/-- No spill of a run faults, so every run with its calls returns. -/
theorem stressTrace_isSome (reqs : List (StressEnv σ × PgHdr)) :
    ∀ (p : Pager) (w : σ), (stressTrace p w reqs).isSome := by
  induction reqs with
  | nil => intro p w; rfl
  | cons r rest ih =>
    intro p w
    obtain ⟨o, ho⟩ := Option.isSome_iff_exists.1 (pagerStress_isSome r.1 p r.2 w)
    obtain ⟨x, hx⟩ := Option.isSome_iff_exists.1 (ih o.pager o.world)
    simp [stressTrace, ho, hx]

/-- For every run of spills of dirty pages (the `assert` of line 35) from a pager
that is `SpillReady`, whose `syncJournal` calls keep their contract on success and
change no state on failure: the pager is `SpillReady` after the run, and every
`pager_write_pagelist` call of every spill of the run gets one page, with
`PGHDR_NEED_SYNC` clear, from a rollback pager in `WRITER_DBMOD` (or a temporary
one) that holds `EXCLUSIVE_LOCK`: the database file is written only under an
exclusive lock and only after the page's journal record is synced. -/
theorem stressTrace_writes_safe (reqs : List (StressEnv σ × PgHdr))
    (hE : ∀ r ∈ reqs, SyncJournalContract r.1 ∧ SyncJournalFailsSafe r.1)
    (hdirty : ∀ r ∈ reqs, r.2.flags.dirty = true) :
    ∀ (p : Pager) (w : σ), SpillReady p → ∀ (q : Pager) (w' : σ) (cs : List StressCall),
      stressTrace p w reqs = some (q, w', cs) →
      SpillReady q ∧ ∀ q' l rc, StressCall.pagerWritePagelist q' l rc ∈ cs →
        WritePagelistEntry q' l ∧ WritePagelistPage q' l ∧ ∃ pg', l = [pg'] ∧ pg'.flags.needSync = false := by
  induction reqs with
  | nil =>
    intro p w hp q w' cs h
    cases h
    exact ⟨hp, by simp⟩
  | cons r rest ih =>
    intro p w hp q w' cs h
    obtain ⟨E, pg⟩ := r
    obtain ⟨o, ho, cs', hr, rfl⟩ := stressTrace_cons_eq_some h
    obtain ⟨hc, hf⟩ := hE _ (List.mem_cons_self _ _)
    obtain ⟨hq, hrest⟩ := ih (fun r h => hE r (List.mem_cons_of_mem _ h))
      (fun r h => hdirty r (List.mem_cons_of_mem _ h)) o.pager o.world (pagerStress_spillReady ho hc hf hp)
      _ _ _ hr
    refine ⟨hq, fun q' l rc hm => ?_⟩
    rcases List.mem_append.1 hm with hm | hm
    · rcases hp with hp | hp
      · rw [pagerStress_of_refused E w (Or.inl hp)] at ho
        cases ho; simp at hm
      · exact pagerStress_write_calls ho hc (hp.pagerInvariant pg) (hdirty _ (List.mem_cons_self _ _)) q' l rc hm
    · exact hrest q' l rc hm

end

/-- Pages 2 and 3 spilled from a pager in `WRITER_CACHEMOD` holding `RESERVED_LOCK`:
the first spill syncs the journal and moves it to `WRITER_DBMOD`. -/
theorem stressTrace_writes_safe_cachemod :
    ∃ (reqs : List (StressEnv Unit × PgHdr)) (p q : Pager) (cs : List StressCall),
      (∀ r ∈ reqs, SyncJournalContract r.1 ∧ SyncJournalFailsSafe r.1) ∧
      (∀ r ∈ reqs, r.2.flags.dirty = true) ∧ SpillReady p ∧ stressTrace p () reqs = some (q, (), cs) ∧
      SpillReady q ∧ ∀ q' l rc, StressCall.pagerWritePagelist q' l rc ∈ cs →
        WritePagelistEntry q' l ∧ WritePagelistPage q' l ∧ ∃ pg', l = [pg'] ∧ pg'.flags.needSync = false := by
  let p : Pager :=
    { Pager.blank with
      eState := .WRITER_CACHEMOD, eLock := 2, dbSize := 3, dbFileSize := 1, dbHintSize := 1, fd := some [] }
  let reqs : List (StressEnv Unit × PgHdr) :=
    [(StressEnv.allOk WriteEnv.allOk, ⟨2, ⟨true, true, false⟩, [], none, 0⟩),
     (StressEnv.allOk WriteEnv.allOk, ⟨3, ⟨true, false, false⟩, [], none, 0⟩)]
  have hE : ∀ r ∈ reqs, SyncJournalContract r.1 ∧ SyncJournalFailsSafe r.1 := by
    simp [reqs, StressEnv.allOk_contract, StressEnv.allOk_failsSafe]
  have hdirty : ∀ r ∈ reqs, r.2.flags.dirty = true := by simp [reqs]
  have hp : SpillReady p := Or.inr ⟨Or.inr (Or.inl rfl), fun h => by simp [p, Pager.blank] at h⟩
  obtain ⟨⟨q, ⟨⟩, cs⟩, h⟩ := Option.isSome_iff_exists.1 (stressTrace_isSome reqs p ())
  exact ⟨reqs, p, q, cs, hE, hdirty, hp, h, stressTrace_writes_safe reqs hE hdirty p () hp q () cs h⟩

end SqliteCore
