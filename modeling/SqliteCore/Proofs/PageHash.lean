import SqliteCore.Proofs.WriteLoop

/-!
# `SqliteCore.Proofs.PageHash`: the page hashes of `SQLITE_CHECK_PAGES`

In a `SQLITE_CHECK_PAGES` build `pager_write_pagelist` stamps every page it goes
through with `pager_pagehash(pPage)` (`pager-imp.c:210`), and the pager later
checks a clean page against that stamp: a page whose image changed without the
page being made dirty shows up as a hash that no longer matches. This module shows
what that check can rely on.

* `pagerDatahash_toNat`: the `u32` loop of `pager_datahash` (lines 445-452) is
  Horner's rule for `Σ pData[i]·1039^(n-1-i)`, taken mod 2^32 once at the end.
* `pagerDatahash_ne_of_burst`: two images that differ only within three
  consecutive bytes among the first `nByte` hash differently, whatever the other
  bytes are. The multiplier 1039 is odd, so its powers are units mod 2^32, and
  three bytes in base 1039 stay below 2^32. Four bytes can collide at any
  position (`pagerDatahash_four_byte_collision`).
* `writeLoop_pageHash`: after a loop that returns `SQLITE_OK`, every page of the
  list carries the hash of its image as the loop leaves it.
-/

set_option autoImplicit false

namespace SqliteCore

/-! ### The loop over unbounded integers -/

/-- `pager_datahash`'s loop `hash = (hash*1039) + pData[i]` from `acc`, over
unbounded integers: the loop without the wrap of `u32`. -/
def datahashNat (acc : Nat) (l : List UInt8) : Nat := l.foldl (fun h b => h * 1039 + b.toNat) acc

@[simp] theorem datahashNat_nil (acc : Nat) : datahashNat acc [] = acc := rfl

@[simp] theorem datahashNat_cons (acc : Nat) (b : UInt8) (l : List UInt8) :
    datahashNat acc (b :: l) = datahashNat (acc * 1039 + b.toNat) l := rfl

/-- The loop over two pieces is the loop over the second from where the first ended. -/
theorem datahashNat_append (acc : Nat) (a b : List UInt8) :
    datahashNat acc (a ++ b) = datahashNat (datahashNat acc a) b := List.foldl_append _ _ _ _

/-- The start value contributes `acc·1039^|l|` (Horner's rule). -/
theorem datahashNat_eq (acc : Nat) (l : List UInt8) :
    datahashNat acc l = acc * 1039 ^ l.length + datahashNat 0 l := by
  induction l generalizing acc with
  | nil => simp
  | cons b l ih =>
    rw [datahashNat_cons, datahashNat_cons, ih, ih (0 * 1039 + b.toNat), List.length_cons]
    ring

/-- Reducing the start value mod 2^32 does not change the result mod 2^32. -/
theorem datahashNat_mod (x : Nat) (l : List UInt8) :
    datahashNat (x % UInt32.size) l % UInt32.size = datahashNat x l % UInt32.size := by
  rw [datahashNat_eq, datahashNat_eq x]
  exact ((Nat.mod_modEq x _).mul_right _).add_right _

/-- The `u32` loop from `acc` is the unbounded loop taken mod 2^32. -/
theorem foldl_datahash_toNat (l : List UInt8) (acc : UInt32) :
    (l.foldl (fun hash b => hash * 1039 + b.toUInt32) acc).toNat = datahashNat acc.toNat l % UInt32.size := by
  induction l generalizing acc with
  | nil => exact (Nat.mod_eq_of_lt acc.toNat_lt).symm
  | cons b l ih =>
    rw [List.foldl_cons, ih, datahashNat_cons, ← datahashNat_mod (acc.toNat * 1039 + b.toNat)]
    congr 2
    simp [UInt32.toNat_add, UInt32.toNat_mul, Nat.mod_add_mod]

/-- `pager_datahash(nByte, pData)` is Horner's rule for the first `nByte` bytes of
the image in base 1039, mod 2^32. -/
theorem pagerDatahash_toNat (nByte : Nat) (pData : List UInt8) :
    (pagerDatahash nByte pData).toNat = datahashNat 0 (pData.take nByte) % UInt32.size :=
  foldl_datahash_toNat _ 0

/-! ### A changed byte changes the hash -/

/-- Bytes are digits in base 1039: the loop from `acc` stays below `(acc+1)·1039^|l|`. -/
theorem datahashNat_lt (acc : Nat) (l : List UInt8) : datahashNat acc l < (acc + 1) * 1039 ^ l.length := by
  induction l generalizing acc with
  | nil => simp
  | cons b l ih =>
    have hb : b.toNat + 1 ≤ 1039 := Nat.lt_trans b.toNat_lt (by decide)
    calc datahashNat acc (b :: l) < (acc * 1039 + b.toNat + 1) * 1039 ^ l.length := ih _
      _ ≤ (acc + 1) * 1039 * 1039 ^ l.length := Nat.mul_le_mul_right _ (by omega)
      _ = (acc + 1) * 1039 ^ (b :: l).length := by rw [List.length_cons, pow_succ']; ring

/-- Base-1039 digits are unique: two images of one length with the same unbounded
hash are equal. -/
theorem datahashNat_inj {u v : List UInt8} (hlen : u.length = v.length)
    (h : datahashNat 0 u = datahashNat 0 v) : u = v := by
  induction u generalizing v with
  | nil => exact (List.length_eq_zero.1 hlen.symm).symm
  | cons x u ih =>
    obtain _ | ⟨y, v⟩ := v
    · simp at hlen
    simp only [List.length_cons, Nat.add_right_cancel_iff] at hlen
    rw [datahashNat_cons, datahashNat_cons, datahashNat_eq, datahashNat_eq (0 * 1039 + y.toNat), hlen] at h
    simp only [Nat.zero_mul, Nat.zero_add] at h
    have hu := datahashNat_lt 0 u
    have hv := datahashNat_lt 0 v
    simp only [hlen, Nat.zero_add, Nat.one_mul] at hu hv
    have hP : 0 < 1039 ^ v.length := Nat.pos_pow_of_pos _ (by decide)
    have hdiv : ∀ z r, r < 1039 ^ v.length → (z * 1039 ^ v.length + r) / 1039 ^ v.length = z := fun z r hr => by
      rw [Nat.add_comm, Nat.add_mul_div_right _ _ hP, Nat.div_eq_of_lt hr, Nat.zero_add]
    have hxy : x.toNat = y.toNat := by rw [← hdiv x.toNat _ hu, h, hdiv y.toNat _ hv]
    rw [hxy] at h
    rw [UInt8.toNat.inj hxy, ih hlen (Nat.add_left_cancel h)]

/-- The multiplier 1039 is odd, so its powers are units mod 2^32. -/
theorem coprime_size_pow (k : Nat) : Nat.gcd UInt32.size (1039 ^ k) = 1 :=
  Nat.Coprime.pow 32 k (by norm_num : Nat.Coprime 2 1039)

/-- The hash of an image cut around a window `u`: `(A·1039^|u| + U)·1039^|b| + B`. -/
theorem datahashNat_window (a u b : List UInt8) :
    datahashNat 0 (a ++ u ++ b) =
      (datahashNat 0 a * 1039 ^ u.length + datahashNat 0 u) * 1039 ^ b.length + datahashNat 0 b := by
  rw [datahashNat_append, datahashNat_append, datahashNat_eq, datahashNat_eq (datahashNat 0 a)]

/-- The first `nByte` bytes of an image with the bytes `u` at position `|a|`, ending
within them. -/
theorem take_append_append {nByte : Nat} (a u b : List UInt8) (ha : a.length + u.length ≤ nByte) :
    (a ++ u ++ b).take nByte = a ++ u ++ b.take (nByte - (a ++ u).length) := by
  rw [List.take_append_eq_append_take, List.take_of_length_le (by simpa using ha)]

/-- For every image and every window of at most three consecutive bytes among the
first `nByte`: changing the bytes of the window changes
`pager_datahash(nByte, pData)`, whatever the bytes around it. The hash of each image
is `(A·1039^w + U)·1039^k + B` mod 2^32 with the same `A`, `B`, `w` and `k`; `1039^k`
is a unit mod 2^32, and the window's value `U` lies below `1039^3 < 2^32` and fixes its
bytes. A single byte is the case `w = 1`. -/
theorem pagerDatahash_ne_of_burst (nByte : Nat) (a b u v : List UInt8) (hlen : u.length = v.length)
    (hw : u.length ≤ 3) (huv : u ≠ v) (ha : a.length + u.length ≤ nByte) :
    pagerDatahash nByte (a ++ u ++ b) ≠ pagerDatahash nByte (a ++ v ++ b) := by
  intro h
  have h' := congrArg UInt32.toNat h
  simp only [pagerDatahash_toNat, take_append_append a u b ha, take_append_append a v b (hlen ▸ ha),
    List.length_append, hlen, datahashNat_window] at h'
  have hU : datahashNat 0 u ≡ datahashNat 0 v [MOD UInt32.size] :=
    Nat.ModEq.add_left_cancel' _ (Nat.ModEq.cancel_right_of_coprime (coprime_size_pow _)
      (Nat.ModEq.add_right_cancel' _ h'))
  have hlt : ∀ z : List UInt8, z.length ≤ 3 → datahashNat 0 z < UInt32.size := fun z hz =>
    calc datahashNat 0 z < (0 + 1) * 1039 ^ z.length := datahashNat_lt 0 z
      _ ≤ 1039 ^ 3 := by rw [Nat.zero_add, Nat.one_mul]; exact Nat.pow_le_pow_right (by decide) hz
      _ < UInt32.size := by decide
  rw [Nat.ModEq, Nat.mod_eq_of_lt (hlt u hw), Nat.mod_eq_of_lt (hlt v (hlen ▸ hw))] at hU
  exact huv (datahashNat_inj hlen hU)

/-- A 512-byte page whose first two bytes go from `00 00` to `01 02`. -/
theorem pagerDatahash_ne_of_burst_first :
    [(0 : UInt8), 0].length = [(1 : UInt8), 2].length ∧ [(0 : UInt8), 0].length ≤ 3 ∧
      [(0 : UInt8), 0] ≠ [1, 2] ∧ ([] : List UInt8).length + [(0 : UInt8), 0].length ≤ 512 ∧
      pagerDatahash 512 ([] ++ [0, 0] ++ List.replicate 510 0) ≠
        pagerDatahash 512 ([] ++ [1, 2] ++ List.replicate 510 0) :=
  ⟨rfl, by decide, by decide, by decide,
    pagerDatahash_ne_of_burst 512 [] _ [0, 0] [1, 2] rfl (by decide) (by decide) (by decide)⟩

/-- Three bytes is the most `pagerDatahash_ne_of_burst` can promise: at every
position among the first `nByte` and whatever the bytes around them, the four bytes
`2E 00 23 54` and `00 33 00 00` give the same `pager_datahash(nByte, pData)`, since
`46·1039^3 + 35·1039 + 84` and `51·1039^2` differ by `12·2^32`. -/
theorem pagerDatahash_four_byte_collision (nByte : Nat) (a b : List UInt8) (ha : a.length + 4 ≤ nByte) :
    pagerDatahash nByte (a ++ [46, 0, 35, 84] ++ b) = pagerDatahash nByte (a ++ [0, 51, 0, 0] ++ b) := by
  have hU : datahashNat 0 [46, 0, 35, 84] ≡ datahashNat 0 [0, 51, 0, 0] [MOD UInt32.size] := by decide
  apply UInt32.toNat.inj
  rw [pagerDatahash_toNat, pagerDatahash_toNat, take_append_append a _ b ha, take_append_append a _ b ha]
  simp only [List.length_append, List.length_cons, List.length_nil, datahashNat_window]
  exact ((hU.add_left _).mul_right _).add_right _

/-- The two windows at the start of a 512-byte page of zeros. -/
theorem pagerDatahash_four_byte_collision_first :
    ([] : List UInt8).length + 4 ≤ 512 ∧
      pagerDatahash 512 ([] ++ [46, 0, 35, 84] ++ List.replicate 508 0) =
        pagerDatahash 512 ([] ++ [0, 51, 0, 0] ++ List.replicate 508 0) :=
  ⟨by decide, pagerDatahash_four_byte_collision 512 [] _ (by decide)⟩

/-! ### The hashes `pager_write_pagelist` leaves -/

/-- `pPage->pageHash==pager_pagehash(pPage)`: the stamp `SQLITE_CHECK_PAGES` checks
a clean page against. -/
def PageHashed (p : Pager) (pg : PgHdr) : Prop := pg.pageHash = pagerDatahash p.pageSize pg.pData

/-- `pager_set_pagehash` makes the stamp match the image. -/
@[simp] theorem pagerSetPagehash_hashed (p : Pager) (pg : PgHdr) : PageHashed p (pagerSetPagehash p pg) := rfl

/-- A loop that returns `SQLITE_OK` leaves every page of the list stamped with the
hash of its image as the loop leaves it (page 1 after its change counter): line 210
runs for every page, written or skipped. -/
theorem writeLoop_pageHash (E : WriteEnv) (k : Nat) (p : Pager) (L : List PgHdr)
    (hok : (writeLoop E k p L).rc = SQLITE_OK) : ∀ pg ∈ (writeLoop E k p L).pages, PageHashed p pg := by
  induction k, p, L using writeLoop.induct E with
  | case1 => simp [writeLoop]
  | case2 k p pg rest hw pg1 hd => simp [writeLoop, hw, hd, SQLITE_NOMEM, SQLITE_OK] at hok
  | case3 k p pg rest hw pg1 d hd s hs ih =>
    simp only [s] at hs ih
    simp only [writeLoop, hw, hd, hs, if_true, List.mem_cons] at hok ⊢
    rintro x (rfl | hx)
    · exact pagerSetPagehash_hashed _ _
    · exact ih hok x hx
  | case4 k p pg rest hw pg1 d hd s hs =>
    simp only [s] at hs
    simp [writeLoop, hw, hd, hs] at hok
  | case5 k p pg rest hw ih =>
    simp only [writeLoop, hw, Bool.false_eq_true, if_false, List.mem_cons] at hok ⊢
    rintro x (rfl | hx)
    · exact pagerSetPagehash_hashed _ _
    · exact ih hok x hx

end SqliteCore
