import SqliteCore.Proofs.Mem5Carve

/-!
# `SqliteCore.Mem5.Roundup`: the table-driven `memsys5Roundup` and the loop it replaces

`mem0.c:67-72` replaces the rounding loop of `memsys5Roundup` (kept, commented
out, at lines 73-78) by a scan of the table `_BlockSize` that `memsys5Init`
fills. The loop returns the least `szAtom * 2 ^ j` at least `n`. The table holds
`szAtom * 2 ^ j` for every `j` with `szAtom * 2 ^ j < 0x40000000` (line 117), so
`0x40000000` itself, which the loop returns for every `n` in
`(0x20000000, 0x40000000]`, is never in it. For such an `n` the scan reads the
zero slots after the filled ones and then runs past `_BlockSize[31]`.

* `memsys5Roundup_eq_loop`: below the largest entry, `n ≤ 0x20000000`, the scan
  stops at a slot `memsys5Init` filled and returns what the loop returns, the
  least `szAtom * 2 ^ j ≥ n` (`memsys5RoundupLoop_spec`).
* `memsys5Roundup_table_or_off`: over a zeroed `_BlockSize`, for every atom size
  and every `n ≤ 0x40000000`, the scan returns the loop's value exactly when that
  is below `0x40000000`, and reads past the 32 slots otherwise.
* `memsys5Roundup_runs_off_table`: at SQLite's atom size 8 and
  `n = 0x40000000` the scan reads past the 32 slots, where the loop returns
  `0x40000000`.
-/

set_option autoImplicit false

namespace SqliteCore.Memsys5

/-- `while (_BlockSize[i++]<n);` from slot `0`: the slot it stops at, `none` when
it reads past the last slot. -/
def blockScan (n : Int) : List Int → Option Nat
  | [] => none
  | b :: bs => if b < n then (blockScan n bs).map (· + 1) else some 0

/-- The table-driven `memsys5Roundup` (lines 67-72) over the slots of
`_BlockSize`: `none` when the scan reads past `_BlockSize[31]`. -/
def memsys5Roundup (blockSize : List Int) (n : Int) : Option Int :=
  if n > 0x40000000 then some 0 else (blockScan n blockSize).map fun i => blockSize.getD i 0

/-- `for(iFullSz=szAtom; iFullSz<n; iFullSz *= 2);` run at most `fuel` times.
`iFullSz` starts at the atom size and only doubles, so it is a `Nat`. -/
def roundupLoop (n : Int) : Nat → Nat → Nat
  | 0, iFullSz => iFullSz
  | fuel + 1, iFullSz => if (iFullSz : Int) < n then roundupLoop n fuel (iFullSz * 2) else iFullSz

/-- The `memsys5Roundup` of lines 73-78, which the table replaces. From
`szAtom ≥ 1` the loop doubles at most 30 times below `n ≤ 0x40000000`, so 31
passes reach its exit test (`memsys5RoundupLoop_spec`). -/
def memsys5RoundupLoop (szAtom : Nat) (n : Int) : Int :=
  if n > 0x40000000 then 0 else roundupLoop n 31 szAtom

/-! ### The loop -/

/-- One more doubling of `size * 2 ^ j`. -/
theorem mul_two_mul_two_pow (size j : Nat) : size * 2 * 2 ^ j = size * 2 ^ (j + 1) := by
  rw [Nat.mul_assoc, ← Nat.pow_succ']

/-- The loop from `size` stops at the first `size * 2 ^ j ≥ n`, given `k ≥ j` passes
of fuel to spare. -/
theorem roundupLoop_spec (n : Int) :
    ∀ (fuel size k : Nat), k < fuel → n ≤ ((size * 2 ^ k : Nat) : Int) →
      ∃ j ≤ k, roundupLoop n fuel size = size * 2 ^ j ∧ n ≤ ((size * 2 ^ j : Nat) : Int) ∧
        (j = 0 ∨ ((size * 2 ^ (j - 1) : Nat) : Int) < n)
  | 0, _, _, hk, _ => absurd hk (Nat.not_lt_zero _)
  | fuel + 1, size, k, hk, hn => by
    by_cases hs : (size : Int) < n
    · cases k with
      | zero => simp at hn; omega
      | succ k =>
        obtain ⟨j, hj, h1, h2, h3⟩ := roundupLoop_spec n fuel (size * 2) k (by omega)
          (by rwa [mul_two_mul_two_pow])
        rw [mul_two_mul_two_pow] at h1 h2
        refine ⟨j + 1, by omega, by rw [roundupLoop, if_pos hs, h1], h2, Or.inr ?_⟩
        rw [Nat.add_sub_cancel]
        rcases Nat.eq_zero_or_pos j with rfl | hj0
        · simpa using hs
        · rcases h3 with rfl | h3
          · exact absurd hj0 (Nat.lt_irrefl 0)
          · rwa [mul_two_mul_two_pow, Nat.sub_add_cancel hj0] at h3
    · exact ⟨0, Nat.zero_le _, by rw [roundupLoop, if_neg hs]; simp, by simp; omega, Or.inl rfl⟩

/-- `memsys5RoundupLoop` returns the least `szAtom * 2 ^ j` that is at least `n`,
for every atom size `szAtom ≥ 1` and every `n ≤ 0x40000000`. -/
theorem memsys5RoundupLoop_spec (szAtom : Nat) (n : Int) (h1 : 1 ≤ szAtom) (hn : n ≤ 0x40000000) :
    ∃ j, memsys5RoundupLoop szAtom n = ((szAtom * 2 ^ j : Nat) : Int) ∧
      n ≤ ((szAtom * 2 ^ j : Nat) : Int) ∧ (j = 0 ∨ ((szAtom * 2 ^ (j - 1) : Nat) : Int) < n) := by
  have h30 : n ≤ ((szAtom * 2 ^ 30 : Nat) : Int) := by
    have : 2 ^ 30 ≤ szAtom * 2 ^ 30 := Nat.le_mul_of_pos_left _ h1
    omega
  obtain ⟨j, -, h⟩ := roundupLoop_spec n 31 szAtom 30 (by decide) h30
  exact ⟨j, by rw [memsys5RoundupLoop, if_neg (by omega), h.1], h.2⟩

/-- At SQLite's atom size 8, a request of 100 bytes. -/
theorem memsys5RoundupLoop_spec_atom8 :
    ∃ j, memsys5RoundupLoop 8 100 = ((8 * 2 ^ j : Nat) : Int) ∧ (100 : Int) ≤ ((8 * 2 ^ j : Nat) : Int) ∧
      (j = 0 ∨ ((8 * 2 ^ (j - 1) : Nat) : Int) < 100) :=
  memsys5RoundupLoop_spec 8 100 (by decide) (by decide)

/-! ### The table -/

/-- Slot `i` of the filled table holds `size * 2 ^ i` while that stays below `0x40000000`. -/
theorem fillBlockSize_getD (size : Nat) :
    ∀ (slots : List Int) (i : Nat), i < slots.length → size * 2 ^ i < 0x40000000 →
      (fillBlockSize size slots).getD i 0 = ((size * 2 ^ i : Nat) : Int)
  | [], _, hi, _ => absurd hi (Nat.not_lt_zero _)
  | s :: rest, i, hi, hsz => by
    have hs : size < 0x40000000 := Nat.lt_of_le_of_lt (Nat.le_mul_of_pos_right _ (Nat.two_pow_pos i)) hsz
    rw [fillBlockSize, if_pos hs]
    cases i with
    | zero => simp
    | succ i =>
      simp only [List.getD_cons_succ]
      rw [fillBlockSize_getD (size * 2) rest i (by simp at hi; omega)
        (by rwa [mul_two_mul_two_pow]), mul_two_mul_two_pow]

/-- The fill stops at the first slot `i` with `size * 2 ^ i ≥ 0x40000000` and leaves
it and every later slot alone. From `size ≥ 1` that is slot 30 at the latest, so the
fill never reaches the end of the 32 slots of `_BlockSize`. -/
theorem fillBlockSize_getD_of_le (size : Nat) :
    ∀ (slots : List Int) (i : Nat), 0x40000000 ≤ size * 2 ^ i →
      (fillBlockSize size slots).getD i 0 = slots.getD i 0
  | [], _, _ => rfl
  | s :: rest, i, hsz => by
    rw [fillBlockSize]
    split
    · cases i with
      | zero => omega
      | succ i =>
        simp only [List.getD_cons_succ]
        exact fillBlockSize_getD_of_le (size * 2) rest i (by rwa [mul_two_mul_two_pow])
    · rfl

/-- Scanning the filled table for `n` walks the same doublings as the loop: it
stops at the slot `j` of the least `size * 2 ^ j ≥ n`, which the fill wrote. -/
theorem blockScan_fillBlockSize (n : Int) (hn : n ≤ 0x20000000) :
    ∀ (slots : List Int) (size k fuel : Nat), k < slots.length → k < fuel →
      n ≤ ((size * 2 ^ k : Nat) : Int) → size < 0x40000000 →
      ∃ j ≤ k, blockScan n (fillBlockSize size slots) = some j ∧ size * 2 ^ j < 0x40000000 ∧
        roundupLoop n fuel size = size * 2 ^ j
  | [], _, _, _, hk, _, _, _ => absurd hk (Nat.not_lt_zero _)
  | _ :: _, _, _, 0, _, hf, _, _ => absurd hf (Nat.not_lt_zero _)
  | s :: rest, size, k, fuel + 1, hk, hf, hnk, hs => by
    rw [fillBlockSize, if_pos hs, blockScan]
    by_cases hlt : (size : Int) < n
    · cases k with
      | zero => simp at hnk; omega
      | succ k =>
        obtain ⟨j, hj, h1, h2, h3⟩ := blockScan_fillBlockSize n hn rest (size * 2) k fuel
          (by simp at hk; omega) (by omega) (by rwa [mul_two_mul_two_pow]) (by omega)
        rw [mul_two_mul_two_pow] at h2 h3
        exact ⟨j + 1, by omega, by simp [hlt, h1], h2, by rw [roundupLoop, if_pos hlt, h3]⟩
    · exact ⟨0, Nat.zero_le _, by simp [hlt], by simpa using hs,
        by rw [roundupLoop, if_neg hlt]; simp⟩

/-- Below the largest entry, `n ≤ 0x20000000`, the table-driven `memsys5Roundup`
over the table `memsys5Init` fills (from the 32 slots of `_BlockSize`) reads only
slots the fill wrote, and returns what the loop it replaces returns, for every
atom size `1 ≤ szAtom < 0x40000000`. -/
theorem memsys5Roundup_eq_loop (K : Mem5Consts) (nByte nMinLog : Nat) (m₀ : Mem5)
    (hslots : m₀.blockSize.length = 32) (h1 : 1 ≤ memsys5AtomSize K nMinLog)
    (h2 : memsys5AtomSize K nMinLog < 0x40000000) (n : Int) (hn : n ≤ 0x20000000) :
    let m := (memsys5Init K nByte nMinLog m₀).1
    ∃ j, blockScan n m.blockSize = some j ∧ m.szAtom * 2 ^ j < 0x40000000 ∧
      memsys5Roundup m.blockSize n = some (memsys5RoundupLoop m.szAtom n) := by
  obtain ⟨hsz, -, -, hbs⟩ := carveLoop_frame K K.LOGMAX (memsys5InitPool K nByte nMinLog m₀) 0
  simp only [memsys5Init, hsz, hbs, memsys5InitPool_szAtom, memsys5InitPool_blockSize]
  have h29 : n ≤ ((memsys5AtomSize K nMinLog * 2 ^ 29 : Nat) : Int) := by
    have : 2 ^ 29 ≤ memsys5AtomSize K nMinLog * 2 ^ 29 := Nat.le_mul_of_pos_left _ h1
    omega
  obtain ⟨j, hj, hscan, hfill, hloop⟩ :=
    blockScan_fillBlockSize n hn m₀.blockSize _ 29 31 (by omega) (by decide) h29 h2
  refine ⟨j, hscan, hfill, ?_⟩
  rw [memsys5Roundup, if_neg (by omega), hscan, Option.map_some', memsys5RoundupLoop,
    if_neg (by omega), hloop, fillBlockSize_getD _ _ _ (by omega) hfill]

/-- At SQLite's constants, a heap of 1000 bytes and a request of 100 bytes. -/
theorem memsys5Roundup_eq_loop_heap_1000 :
    let m := (memsys5Init ⟨30, 0x20, 8⟩ 1000 0 ⟨0, 0, 0, fun _ => 0, fun _ => [], List.replicate 32 0⟩).1
    ∃ j, blockScan 100 m.blockSize = some j ∧ m.szAtom * 2 ^ j < 0x40000000 ∧
      memsys5Roundup m.blockSize 100 = some (memsys5RoundupLoop m.szAtom 100) :=
  memsys5Roundup_eq_loop ⟨30, 0x20, 8⟩ 1000 0 ⟨0, 0, 0, fun _ => 0, fun _ => [], List.replicate 32 0⟩
    rfl (by decide) (by decide) 100 (by decide)

/-! ### The table against the loop, for every request -/

/-- The loop stops at once on a size that is already at least `n`. -/
theorem roundupLoop_of_not_lt {n : Int} {size : Nat} (h : ¬(size : Int) < n) (fuel : Nat) :
    roundupLoop n fuel size = size := by
  cases fuel <;> simp [roundupLoop, h]

/-- The scan finds no slot in a table whose entries are all below `n`: it runs off the end. -/
theorem blockScan_eq_none {n : Int} : ∀ {l : List Int}, (∀ x ∈ l, x < n) → blockScan n l = none
  | [], _ => rfl
  | x :: l, h => by
    rw [blockScan, if_pos (h x (List.mem_cons_self _ _)),
      blockScan_eq_none fun y hy => h y (List.mem_cons_of_mem _ hy)]
    rfl

/-- Over the table the fill leaves in zeroed slots, enough of them for the fill to
stop, the scan returns the loop's value while that is below `0x40000000`, and runs
past the last slot otherwise. -/
theorem scan_fillBlockSize (n : Int) (hn : n ≤ 0x40000000) :
    ∀ (slots : List Int) (size fuel : Nat), (∀ x ∈ slots, x = 0) →
      0x40000000 ≤ size * 2 ^ slots.length → 0x40000000 ≤ size * 2 ^ fuel →
      (size < 0x40000000 ∨ 0 < n) →
      (blockScan n (fillBlockSize size slots)).map (fun i => (fillBlockSize size slots).getD i 0) =
        if ((roundupLoop n fuel size : Nat) : Int) < 0x40000000 then some (roundupLoop n fuel size : Int)
        else none
  | [], size, fuel, _, hsl, _, _ => by
    have hs : 0x40000000 ≤ size := by simpa using hsl
    rw [roundupLoop_of_not_lt (by omega), if_neg (by omega)]
    rfl
  | s :: rest, size, fuel, hz, hsl, hfu, hpos => by
    by_cases hfill : size < 0x40000000
    · rw [fillBlockSize, if_pos hfill]
      by_cases hlt : (size : Int) < n
      · obtain ⟨f, rfl⟩ : ∃ f, fuel = f + 1 := Nat.exists_eq_succ_of_ne_zero fun h => by
          subst h; simp at hfu; omega
        simp only [blockScan, if_pos hlt, Option.map_map, Function.comp_def, List.getD_cons_succ]
        rw [roundupLoop, if_pos hlt]
        exact scan_fillBlockSize n hn rest (size * 2) f (fun x hx => hz x (List.mem_cons_of_mem _ hx))
          (by rwa [mul_two_mul_two_pow]) (by rwa [mul_two_mul_two_pow]) (Or.inr (by omega))
      · rw [roundupLoop_of_not_lt hlt, if_pos (by omega)]
        simp [blockScan, hlt]
    · have hn0 : 0 < n := hpos.resolve_left hfill
      rw [fillBlockSize, if_neg hfill, roundupLoop_of_not_lt (by omega), if_neg (by omega),
        blockScan_eq_none fun x hx => by rw [hz x hx]; exact hn0]
      rfl

/-- Over the table `memsys5Init` fills into `_BlockSize` as static storage leaves it
(all zero), for every atom size `1 ≤ szAtom < 0x40000000` and every
`n ≤ 0x40000000`: the table-driven `memsys5Roundup` returns what the loop it
replaces returns exactly when that is below `0x40000000`; otherwise it reads past
`_BlockSize[31]`. -/
theorem memsys5Roundup_table_or_off (K : Mem5Consts) (nByte nMinLog : Nat) (m₀ : Mem5)
    (hslots : m₀.blockSize = List.replicate 32 0) (h1 : 1 ≤ memsys5AtomSize K nMinLog)
    (h2 : memsys5AtomSize K nMinLog < 0x40000000) (n : Int) (hn : n ≤ 0x40000000) :
    memsys5Roundup (memsys5Init K nByte nMinLog m₀).1.blockSize n =
      if memsys5RoundupLoop (memsys5Init K nByte nMinLog m₀).1.szAtom n < 0x40000000 then
        some (memsys5RoundupLoop (memsys5Init K nByte nMinLog m₀).1.szAtom n)
      else none := by
  obtain ⟨hsz, -, -, hbs⟩ := carveLoop_frame K K.LOGMAX (memsys5InitPool K nByte nMinLog m₀) 0
  simp only [memsys5Init, hsz, hbs, memsys5InitPool_szAtom, memsys5InitPool_blockSize, hslots]
  have hle : ¬n > 0x40000000 := by omega
  rw [memsys5Roundup, if_neg hle, memsys5RoundupLoop, if_neg hle]
  have hpow : ∀ k, 30 ≤ k → 0x40000000 ≤ memsys5AtomSize K nMinLog * 2 ^ k := fun k hk =>
    Nat.le_trans (Nat.pow_le_pow_right Nat.zero_lt_two hk) (Nat.le_mul_of_pos_left _ h1)
  have hlen : 30 ≤ (List.replicate 32 (0 : Int)).length := by rw [List.length_replicate]; decide
  exact scan_fillBlockSize n hn _ _ 31 (fun x hx => List.eq_of_mem_replicate hx)
    (hpow _ hlen) (hpow 31 (by decide)) (Or.inl h2)

/-- At SQLite's constants, a heap of 1000 bytes and a request of 100 bytes. -/
theorem memsys5Roundup_table_or_off_heap_1000 :
    memsys5Roundup (memsys5Init ⟨30, 0x20, 8⟩ 1000 0
        ⟨0, 0, 0, fun _ => 0, fun _ => [], List.replicate 32 0⟩).1.blockSize 100 =
      if memsys5RoundupLoop (memsys5Init ⟨30, 0x20, 8⟩ 1000 0
          ⟨0, 0, 0, fun _ => 0, fun _ => [], List.replicate 32 0⟩).1.szAtom 100 < 0x40000000 then
        some (memsys5RoundupLoop (memsys5Init ⟨30, 0x20, 8⟩ 1000 0
          ⟨0, 0, 0, fun _ => 0, fun _ => [], List.replicate 32 0⟩).1.szAtom 100)
      else none :=
  memsys5Roundup_table_or_off ⟨30, 0x20, 8⟩ 1000 0 _ rfl (by decide) (by decide) 100 (by decide)

/-- At SQLite's constants (`LOGMAX = 30`, `CTRL_FREE = 0x20`, `sizeof(Mem5Link) =
8`), a heap of 1000 bytes and `mnReq = 1`, so `szAtom = 8`, with `_BlockSize` as
static storage starts it (all zero): `memsys5Roundup(0x40000000)` finds no slot
`≥ n` among the 27 filled ones and the 5 zero ones after them, and reads past
`_BlockSize[31]`, where the loop it replaces returns `0x40000000`. -/
theorem memsys5Roundup_runs_off_table :
    (memsys5Init ⟨30, 0x20, 8⟩ 1000 0 ⟨0, 0, 0, fun _ => 0, fun _ => [], List.replicate 32 0⟩).1.szAtom = 8 ∧
      memsys5Roundup (memsys5Init ⟨30, 0x20, 8⟩ 1000 0
        ⟨0, 0, 0, fun _ => 0, fun _ => [], List.replicate 32 0⟩).1.blockSize 0x40000000 = none ∧
      memsys5RoundupLoop 8 0x40000000 = 0x40000000 := by
  obtain ⟨hsz, -, -, hbs⟩ := carveLoop_frame ⟨30, 0x20, 8⟩ 30
    (memsys5InitPool ⟨30, 0x20, 8⟩ 1000 0 ⟨0, 0, 0, fun _ => 0, fun _ => [], List.replicate 32 0⟩) 0
  simp only [memsys5Init, hsz, hbs, memsys5InitPool_szAtom, memsys5InitPool_blockSize]
  decide

end SqliteCore.Memsys5
