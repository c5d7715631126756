import ServiceFlow.Text.Utf8

/-!
# Numbers of variable length

A number of up to 64 bits is written in groups of seven bits, the lowest first, one group a byte; the
high bit of a byte says that another follows. A reader takes at most ten bytes, and of the tenth only
the lowest bit may be set.

Results:
* `readVarint_writeVarint`: a reader takes back what was written, whatever follows it.
-/

namespace ServiceFlow.Wire

/-- The bytes of a number. -/
def writeVarint (n : Nat) : Bytes :=
  if n < 128 then [UInt8.ofNat n] else UInt8.ofNat (n % 128 + 128) :: writeVarint (n / 128)
termination_by n
decreasing_by omega

/-- Reads a number of at most `more + 1` bytes, ten of which fill 64 bits. -/
def readVarintFrom : Nat → Bytes → Option (Nat × Bytes)
  | _, [] => none
  | 0, b :: r => if b < 2 then some (b.toNat, r) else none
  | more + 1, b :: r =>
    if b < 0x80 then some (b.toNat, r)
    else (readVarintFrom more r).map fun (n, r) => (b.toNat - 128 + 128 * n, r)

/-- Reads a number. -/
def readVarint (bs : Bytes) : Option (Nat × Bytes) := readVarintFrom 9 bs

/-- What a number of at most `more + 1` bytes stays below. -/
def limitOf : Nat → Nat
  | 0 => 2
  | more + 1 => 128 * limitOf more

theorem readVarintFrom_writeVarint (more n : Nat) (h : n < limitOf more) (rest : Bytes) :
    readVarintFrom more (writeVarint n ++ rest) = some (n, rest) := by
  induction more generalizing n with
  | zero =>
    have h : n < 2 := h
    have e : (UInt8.ofNat n).toNat = n := by rw [UInt8.toNat_ofNat']; omega
    rw [writeVarint, if_pos (by omega)]
    have hb : UInt8.ofNat n < 2 := UInt8.lt_iff_toNat_lt.2 (by rw [e]; exact h)
    simp [readVarintFrom, hb, e]
  | succ more ih =>
    rw [writeVarint]
    by_cases hn : n < 128
    · rw [if_pos hn]
      have e : (UInt8.ofNat n).toNat = n := by rw [UInt8.toNat_ofNat']; omega
      have hb : UInt8.ofNat n < 0x80 := UInt8.lt_iff_toNat_lt.2 (by rw [e]; exact hn)
      simp [readVarintFrom, hb, e]
    · rw [if_neg hn]
      have e : (UInt8.ofNat (n % 128 + 128)).toNat = n % 128 + 128 := by
        rw [UInt8.toNat_ofNat']; omega
      have hb : ¬ UInt8.ofNat (n % 128 + 128) < 0x80 := fun hb => by
        have hb : (UInt8.ofNat (n % 128 + 128)).toNat < 128 := UInt8.lt_iff_toNat_lt.1 hb
        omega
      have hd : n / 128 < limitOf more := by
        rw [limitOf] at h
        omega
      rw [List.cons_append, readVarintFrom, if_neg hb, ih _ hd, e]
      simp only [Option.map_some, Option.some.injEq, Prod.mk.injEq, and_true]
      omega

theorem readVarint_writeVarint {n : Nat} (h : n < UInt64.size) (rest : Bytes) :
    readVarint (writeVarint n ++ rest) = some (n, rest) :=
  readVarintFrom_writeVarint 9 n h rest

end ServiceFlow.Wire
