import Mathlib
import CompactAdjacency.Coding.Varint

/-!
# Runs of varints

Reading, measuring and skipping walk the same bytes, and this module says how far each of them gets.
By `split_of_readRun` a run that can be read is measured and skipped to the very byte where reading
ended, and by `exists_readRun` whatever can be measured can be read. `readRun_encodeAll` is the
round trip of a run of words, and `readRun_add` cuts a run in two. Measuring compares the lengths of
numbers, which `lengths?` lists without a limit, with the largest length of a word:
`measure?_eq_some_iff`.
-/

namespace CompactAdjacency.Varint

/-! ## One number -/

theorem toNat_toUInt8 {value : Nat} (h : value < 256) : value.toUInt8.toNat = value := by
  simp [Nat.toUInt8, UInt8.toNat_ofNat', Nat.mod_eq_of_lt h]

/-- A number that fits into `limit + 1` bytes of seven bits is read back, whatever follows it. -/
theorem readNat?_encodeNat {limit value : Nat} (h : value < 128 ^ (limit + 1)) (rest : Bytes) :
    readNat? (limit + 1) (encodeNat value ++ rest) = some (value, rest) := by
  induction limit generalizing value with
  | zero =>
      have hlt : value < 128 := by simpa using h
      rw [encodeNat, if_pos hlt]
      simp [readNat?, continues, toNat_toUInt8 (show value < 256 by omega),
        show ¬ 128 ≤ value by omega]
  | succ limit ih =>
      rw [encodeNat]
      split
      case isTrue hlt =>
        simp [readNat?, continues, toNat_toUInt8 (show value < 256 by omega),
          show ¬ 128 ≤ value by omega]
      case isFalse hge =>
        -- the bits above the lowest seven need one byte less
        have hhigh : value / 128 < 128 ^ (limit + 1) := by
          rw [Nat.div_lt_iff_lt_mul (by decide), ← pow_succ]
          exact h
        have hbyte := toNat_toUInt8 (show value % 128 + 128 < 256 by omega)
        rw [List.cons_append, readNat?, continues, hbyte]
        simp only [ge_iff_le, Nat.le_add_left, decide_true, if_true, ih hhigh, Option.map_some,
          Option.some.injEq, Prod.mk.injEq, and_true]
        omega

/-- A word is read back, whatever follows it. -/
theorem read?_encode (value : UInt64) (rest : Bytes) :
    read? (encode value ++ rest) = some (value, rest) := by
  have hfit : value.toNat < 128 ^ (9 + 1) := lt_trans value.toNat_lt (by decide)
  simp [read?, encode, maxLength, readNat?_encodeNat hfit, Nat.toUInt64]

/-- What is read off the front of a byte string is what measuring and skipping find there. -/
theorem split_of_readNat? {limit value : Nat} {bytes rest : Bytes}
    (h : readNat? limit bytes = some (value, rest)) :
    ∃ front, bytes = front ++ rest ∧ front ≠ [] ∧ measureOne? limit bytes = some front.length ∧
      ∀ count, skip? (count + 1) bytes = (skip? count rest).map (· + front.length) := by
  induction limit generalizing bytes value with
  | zero => simp [readNat?] at h
  | succ limit ih =>
      cases bytes with
      | nil => simp [readNat?] at h
      | cons byte tail =>
          rw [readNat?] at h
          split at h
          case isTrue hcontinues =>
            obtain ⟨⟨high, rest'⟩, htail, heq⟩ := Option.map_eq_some_iff.mp h
            obtain ⟨rfl, rfl⟩ := Prod.mk.inj heq
            obtain ⟨front, rfl, _, hmeasure, hskip⟩ := ih htail
            refine ⟨byte :: front, rfl, List.cons_ne_nil _ _, ?_, ?_⟩
            · simp [measureOne?, hcontinues, hmeasure]
            · intro count
              simp [skip?, hcontinues, hskip, Function.comp_def, Nat.add_assoc]
          case isFalse hends =>
            simp only [Option.some.injEq, Prod.mk.injEq] at h
            obtain ⟨-, rfl⟩ := h
            refine ⟨[byte], rfl, List.cons_ne_nil _ _, ?_, ?_⟩
            · simp [measureOne?, hends]
            · intro count
              simp [skip?, hends]

/-- A number that can be measured can be read. -/
theorem exists_readNat? {limit length : Nat} {bytes : Bytes}
    (h : measureOne? limit bytes = some length) :
    ∃ value rest, readNat? limit bytes = some (value, rest) := by
  induction limit generalizing bytes length with
  | zero => simp [measureOne?] at h
  | succ limit ih =>
      cases bytes with
      | nil => simp [measureOne?] at h
      | cons byte tail =>
          rw [measureOne?] at h
          split at h
          case isTrue hcontinues =>
            obtain ⟨_, htail, -⟩ := Option.map_eq_some_iff.mp h
            obtain ⟨value, rest, hread⟩ := ih htail
            exact ⟨byte.toNat - 128 + 128 * value, rest, by simp [readNat?, hcontinues, hread]⟩
          case isFalse hends => exact ⟨byte.toNat, tail, by simp [readNat?, hends]⟩

/-! ## Several numbers -/

@[simp] theorem readRun_zero (bytes : Bytes) : readRun 0 bytes = ⟨[], some bytes⟩ := rfl

/-- A run goes on behind its first word. -/
theorem readRun_succ {value : UInt64} {bytes rest : Bytes} (h : read? bytes = some (value, rest))
    (count : Nat) :
    readRun (count + 1) bytes =
      ⟨value :: (readRun count rest).values, (readRun count rest).rest⟩ := by
  simp [readRun, h]

/-- A run that is complete begins with a word. -/
theorem readRun_succ_complete {count : Nat} {bytes rest : Bytes}
    (h : (readRun (count + 1) bytes).rest = some rest) :
    ∃ value tail, read? bytes = some (value, tail) ∧ (readRun count tail).rest = some rest := by
  cases hread : read? bytes with
  | none => simp [readRun, hread] at h
  | some read =>
      obtain ⟨value, tail⟩ := read
      rw [readRun_succ hread] at h
      exact ⟨value, tail, rfl, h⟩

/-- A complete run holds as many words as were asked for, takes at least a byte for each, and ends
where measuring and skipping end. -/
theorem split_of_readRun {count : Nat} {bytes rest : Bytes}
    (h : (readRun count bytes).rest = some rest) :
    ∃ front, bytes = front ++ rest ∧ count ≤ front.length ∧
      (readRun count bytes).values.length = count ∧
      measure? count bytes = some front.length ∧ skip? count bytes = some front.length := by
  induction count generalizing bytes with
  | zero =>
      obtain rfl := Option.some.inj h
      exact ⟨[], rfl, le_refl _, rfl, rfl, by cases bytes <;> rfl⟩
  | succ count ih =>
      obtain ⟨value, tail, hread, hrest⟩ := readRun_succ_complete h
      obtain ⟨back, rfl, hcount, hvalues, hmeasure, hskip⟩ := ih hrest
      obtain ⟨⟨number, tail'⟩, hnumber, heq⟩ := Option.map_eq_some_iff.mp hread
      obtain ⟨-, rfl⟩ := Prod.mk.inj heq
      obtain ⟨front, rfl, hfront, hfirst, hskips⟩ := split_of_readNat? hnumber
      have hpos := List.length_pos_iff.mpr hfront
      refine ⟨front ++ back, (List.append_assoc _ _ _).symm, ?_, ?_, ?_, ?_⟩
      · rw [List.length_append]
        omega
      · rw [readRun_succ hread, List.length_cons, hvalues]
      · simp [measure?, hfirst, hmeasure]
      · simp [hskips, hskip, Nat.add_comm]

/-- A run that can be measured can be read. -/
theorem exists_readRun {count length : Nat} {bytes : Bytes}
    (h : measure? count bytes = some length) :
    ∃ rest, (readRun count bytes).rest = some rest := by
  induction count generalizing bytes length with
  | zero => exact ⟨bytes, rfl⟩
  | succ count ih =>
      simp only [measure?, bind, Option.bind_eq_some_iff] at h
      obtain ⟨first, hfirst, others, hothers, -⟩ := h
      obtain ⟨number, tail, hnumber⟩ := exists_readNat? hfirst
      obtain ⟨front, rfl, -, hmeasure, -⟩ := split_of_readNat? hnumber
      obtain rfl : front.length = first := Option.some.inj (hmeasure.symm.trans hfirst)
      rw [List.drop_left] at hothers
      obtain ⟨rest, hrest⟩ := ih hothers
      have hread : read? (front ++ tail) = some (number.toUInt64, tail) := by simp [read?, hnumber]
      exact ⟨rest, by rw [readRun_succ hread, hrest]⟩

/-- A run of words is read back, whatever follows it. -/
theorem readRun_encodeAll (values : List UInt64) (rest : Bytes) :
    readRun values.length (encodeAll values ++ rest) = ⟨values, some rest⟩ := by
  induction values with
  | nil => rfl
  | cons value values ih =>
      have hread := read?_encode value (encodeAll values ++ rest)
      rw [encodeAll, List.flatMap_cons, ← encodeAll, List.append_assoc, List.length_cons,
        readRun_succ hread, ih]

/-- The measure of a written run is its length, whatever follows it. -/
theorem measure?_encodeAll (values : List UInt64) (rest : Bytes) :
    measure? values.length (encodeAll values ++ rest) = some (encodeAll values).length := by
  obtain ⟨front, hsplit, -, -, hmeasure, -⟩ := split_of_readRun
    (show (readRun values.length (encodeAll values ++ rest)).rest = some rest by
      rw [readRun_encodeAll])
  rw [hmeasure, List.append_cancel_right hsplit]

/-- A complete run is a shorter run followed by another one. -/
theorem readRun_add {first second : Nat} {bytes rest : Bytes}
    (h : (readRun (first + second) bytes).rest = some rest) :
    ∃ middle, (readRun first bytes).rest = some middle ∧ (readRun second middle).rest = some rest ∧
      (readRun (first + second) bytes).values =
        (readRun first bytes).values ++ (readRun second middle).values := by
  induction first generalizing bytes with
  | zero => exact ⟨bytes, rfl, by simpa using h, by simp⟩
  | succ first ih =>
      rw [Nat.succ_add] at h ⊢
      obtain ⟨value, tail, hread, hrest⟩ := readRun_succ_complete h
      obtain ⟨middle, hfirst, hsecond, hvalues⟩ := ih hrest
      refine ⟨middle, ?_, hsecond, ?_⟩
      · rw [readRun_succ hread, hfirst]
      · rw [readRun_succ hread, readRun_succ hread, hvalues, List.cons_append]

/-- A complete run and another one behind it are a longer run. -/
theorem rest_readRun_add {first second : Nat} {bytes middle rest : Bytes}
    (hfirst : (readRun first bytes).rest = some middle)
    (hsecond : (readRun second middle).rest = some rest) :
    (readRun (first + second) bytes).rest = some rest := by
  induction first generalizing bytes with
  | zero =>
      obtain rfl := Option.some.inj hfirst
      rwa [Nat.zero_add]
  | succ first ih =>
      obtain ⟨value, tail, hread, hrest⟩ := readRun_succ_complete hfirst
      rw [Nat.succ_add, readRun_succ hread]
      exact ih hrest

/-! ## Lengths of numbers -/

/-- The lengths of the first `count` numbers of a byte string, however long they are; `none` if the
bytes end before the last of them does. -/
def lengths? : Nat → Bytes → Option (List Nat)
  | 0, _ => some []
  | count + 1, bytes => do
      let first ← skip? 1 bytes
      let others ← lengths? count (bytes.drop first)
      pure (first :: others)

/-- Measuring a number is looking for its end, and not past the limit. -/
theorem measureOne?_eq_some_iff {limit length : Nat} {bytes : Bytes} :
    measureOne? limit bytes = some length ↔ skip? 1 bytes = some length ∧ length ≤ limit := by
  induction limit generalizing bytes length with
  | zero =>
      cases bytes with
      | nil => simp [measureOne?, skip?]
      | cons byte rest =>
          simp only [measureOne?, skip?, reduceCtorEq, Option.map_eq_some_iff, false_iff]
          rintro ⟨⟨others, -, rfl⟩, hlimit⟩
          omega
  | succ limit ih =>
      cases bytes with
      | nil => simp [measureOne?, skip?]
      | cons byte rest =>
          rw [measureOne?, skip?]
          split
          case isTrue hcontinues =>
            simp only [Option.map_eq_some_iff, ih]
            constructor
            · rintro ⟨others, ⟨hothers, hlimit⟩, rfl⟩
              exact ⟨⟨others, hothers, rfl⟩, by omega⟩
            · rintro ⟨⟨others, hothers, rfl⟩, hlimit⟩
              exact ⟨others, ⟨hothers, by omega⟩, rfl⟩
          case isFalse hends =>
            simp only [skip?, Option.map_some, Option.some.injEq, Nat.zero_add]
            constructor
            · rintro rfl
              exact ⟨rfl, by omega⟩
            · exact And.left

/-- Measuring several numbers is adding up their lengths, none of which may be more than ten. -/
theorem measure?_eq_some_iff {count length : Nat} {bytes : Bytes} :
    measure? count bytes = some length ↔
      ∃ lengths, lengths? count bytes = some lengths ∧ (∀ one ∈ lengths, one ≤ maxLength) ∧
        length = lengths.sum := by
  induction count generalizing bytes length with
  | zero => simp [measure?, lengths?, eq_comm]
  | succ count ih =>
      simp only [measure?, lengths?, bind, pure, Option.bind_eq_some_iff, Option.some.injEq, ih,
        measureOne?_eq_some_iff]
      constructor
      · rintro ⟨first, ⟨hfirst, hlimit⟩, _, ⟨others, hothers, hlimits, rfl⟩, rfl⟩
        exact ⟨first :: others, ⟨first, hfirst, others, hothers, rfl⟩,
          List.forall_mem_cons.mpr ⟨hlimit, hlimits⟩, List.sum_cons.symm⟩
      · rintro ⟨_, ⟨first, hfirst, others, hothers, rfl⟩, hlimits, rfl⟩
        obtain ⟨hlimit, hlimits⟩ := List.forall_mem_cons.mp hlimits
        exact ⟨first, ⟨hfirst, hlimit⟩, others.sum, ⟨others, hothers, hlimits, rfl⟩,
          List.sum_cons.symm⟩

end CompactAdjacency.Varint
