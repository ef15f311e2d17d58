import Mathlib
import CompactAdjacency.Proofs.Coding.VarintBuffers

/-!
# Skipping agrees with decoding

A number ends at its first byte that does not say that it goes on, whatever the number is:
`IsNumber`. So the numbers at the front of a byte string can be cut apart without decoding them,
`BeginsWith`, and measuring a run fails exactly if there are not enough of them or one is too long,
`measure?_eq_none_iff`. Where it succeeds, skipping and decoding take the bytes that it measured,
and where it fails decoding fails as well: `measure?_agrees_with_decoding`.
-/

namespace CompactAdjacency

namespace Gaps

/-- Every running sum is the sum of the differences up to it, modulo the size of a word. -/
theorem map_toNat_sumsFrom (previous : UInt64) (gaps : List UInt64) :
    (sumsFrom previous gaps).map UInt64.toNat =
      (List.range gaps.length).map fun index =>
        (previous.toNat + ((gaps.take (index + 1)).map UInt64.toNat).sum) % UInt64.size := by
  induction gaps generalizing previous with
  | nil => rfl
  | cons gap gaps ih =>
      have hnext : (previous + gap).toNat = (previous.toNat + gap.toNat) % UInt64.size :=
        UInt64.toNat_add previous gap
      rw [sumsFrom, List.map_cons, ih, List.length_cons, List.range_succ_eq_map, List.map_cons,
        List.map_map]
      refine congrArg₂ List.cons ?_ (List.map_congr_left fun index _ => ?_)
      · simp
      · rw [hnext, Nat.mod_add_mod, Function.comp_apply, List.take_succ_cons, List.map_cons,
          List.sum_cons, Nat.add_assoc]

end Gaps

namespace Varint

/-! ## Numbers without their values -/

/-- The bytes of one number: all but the last one say that the number goes on. -/
inductive IsNumber : Bytes → Prop
  | last {byte : UInt8} (ends : continues byte = false) : IsNumber [byte]
  | more {byte : UInt8} {number : Bytes} (goesOn : continues byte = true)
      (others : IsNumber number) : IsNumber (byte :: number)

/-- A byte string begins with these numbers, one after the other. -/
def BeginsWith (bytes : Bytes) (numbers : List Bytes) : Prop :=
  (∀ number ∈ numbers, IsNumber number) ∧ numbers.flatten <+: bytes

/-- A number is skipped up to its last byte, whatever follows it. -/
theorem IsNumber.skip? {number : Bytes} (h : IsNumber number) (rest : Bytes) :
    skip? 1 (number ++ rest) = some number.length := by
  induction h with
  | last ends => simp [Varint.skip?, ends]
  | more goesOn others ih => simp [Varint.skip?, goesOn, ih]

/-- What is skipped is a number. -/
theorem exists_number_of_skip? {bytes : Bytes} {length : Nat} (h : skip? 1 bytes = some length) :
    ∃ number, IsNumber number ∧ number.length = length ∧ bytes = number ++ bytes.drop length := by
  induction bytes generalizing length with
  | nil => simp [skip?] at h
  | cons byte bytes ih =>
      rw [skip?] at h
      obtain ⟨others, hothers, rfl⟩ := Option.map_eq_some_iff.mp h
      cases hbyte : continues byte with
      | true =>
          rw [hbyte, if_pos rfl] at hothers
          obtain ⟨number, hnumber, hlength, hbytes⟩ := ih hothers
          refine ⟨byte :: number, .more hbyte hnumber, congrArg (· + 1) hlength, ?_⟩
          rw [List.drop_succ_cons, List.cons_append, ← hbytes]
      | false =>
          rw [hbyte] at hothers
          obtain rfl : 0 = others := by simpa [skip?] using hothers
          exact ⟨[byte], .last hbyte, rfl, rfl⟩

/-- The lengths of a run are those of the numbers that the bytes begin with. -/
theorem lengths?_eq_some_iff {count : Nat} {bytes : Bytes} {lengths : List Nat} :
    lengths? count bytes = some lengths ↔
      ∃ numbers, numbers.length = count ∧ BeginsWith bytes numbers ∧
        lengths = numbers.map List.length := by
  induction count generalizing bytes lengths with
  | zero =>
      constructor
      · intro h
        obtain rfl := Option.some.inj h
        exact ⟨[], rfl, ⟨by simp, List.nil_prefix⟩, rfl⟩
      · rintro ⟨numbers, hlength, -, rfl⟩
        rw [List.eq_nil_of_length_eq_zero hlength]
        rfl
  | succ count ih =>
      simp only [lengths?, bind, pure, Option.bind_eq_some_iff, Option.some.injEq]
      constructor
      · rintro ⟨first, hfirst, others, hothers, rfl⟩
        obtain ⟨number, hnumber, rfl, hbytes⟩ := exists_number_of_skip? hfirst
        obtain ⟨numbers, rfl, ⟨hnumbers, hprefix⟩, rfl⟩ := ih.mp hothers
        refine ⟨number :: numbers, rfl, ⟨List.forall_mem_cons.mpr ⟨hnumber, hnumbers⟩, ?_⟩, rfl⟩
        rw [hbytes, List.flatten_cons]
        exact (List.prefix_append_right_inj number).mpr hprefix
      · rintro ⟨numbers, hlength, ⟨hnumbers, rest, rfl⟩, rfl⟩
        obtain ⟨number, others, rfl⟩ := List.exists_cons_of_length_eq_add_one hlength
        obtain ⟨hnumber, hothers⟩ := List.forall_mem_cons.mp hnumbers
        refine ⟨number.length, ?_, others.map List.length, ih.mpr ⟨others, ?_, ⟨hothers, ?_⟩, rfl⟩,
          rfl⟩
        · rw [List.flatten_cons, List.append_assoc]
          exact hnumber.skip? _
        · simpa using hlength
        · rw [List.flatten_cons, List.append_assoc, List.drop_left]
          exact List.prefix_append _ _

/-- The first lengths of a run are those of a shorter run. -/
theorem lengths?_take {count fewer : Nat} {bytes : Bytes} {lengths : List Nat}
    (h : lengths? count bytes = some lengths) (hfewer : fewer ≤ count) :
    lengths? fewer bytes = some (lengths.take fewer) := by
  obtain ⟨numbers, rfl, ⟨hnumbers, hprefix⟩, rfl⟩ := lengths?_eq_some_iff.mp h
  refine lengths?_eq_some_iff.mpr ⟨numbers.take fewer, ?_, ⟨?_, ?_⟩, ?_⟩
  · exact List.length_take_of_le hfewer
  · exact fun number hnumber => hnumbers number (List.mem_of_mem_take hnumber)
  · exact ((List.take_prefix fewer numbers).flatten).trans hprefix
  · rw [List.map_take]

/-! ## Measuring -/

/-- A run cannot be measured exactly if the bytes end before its last number does, or one of its
numbers is longer than a word may be. -/
theorem measure?_eq_none_iff {count : Nat} {bytes : Bytes} :
    measure? count bytes = none ↔
      (¬ ∃ numbers, numbers.length = count ∧ BeginsWith bytes numbers) ∨
        ∃ numbers, numbers.length ≤ count ∧ BeginsWith bytes numbers ∧
          ∃ number ∈ numbers, maxLength < number.length := by
  cases hlengths : lengths? count bytes with
  | none =>
      have hends : ¬ ∃ numbers, numbers.length = count ∧ BeginsWith bytes numbers := by
        rintro ⟨numbers, hcount, hbegins⟩
        rw [lengths?_eq_some_iff.mpr ⟨numbers, hcount, hbegins, rfl⟩] at hlengths
        cases hlengths
      refine iff_of_true ?_ (.inl hends)
      rw [Option.eq_none_iff_forall_ne_some]
      intro length hmeasure
      obtain ⟨lengths, hsome, -⟩ := measure?_eq_some_iff.mp hmeasure
      rw [hlengths] at hsome
      cases hsome
  | some lengths =>
      obtain ⟨numbers, hcount, hbegins, rfl⟩ := lengths?_eq_some_iff.mp hlengths
      constructor
      · intro hmeasure
        by_contra hnot
        obtain ⟨-, hshort⟩ := not_or.mp hnot
        have hlimit : ∀ one ∈ numbers.map List.length, one ≤ maxLength := by
          rw [List.forall_mem_map]
          intro number hnumber
          by_contra hlong
          exact hshort ⟨numbers, hcount.le, hbegins, number, hnumber, Nat.lt_of_not_le hlong⟩
        rw [measure?_eq_some_iff.mpr ⟨_, hlengths, hlimit, rfl⟩] at hmeasure
        cases hmeasure
      · rintro (hends | ⟨front, hfront, hbegins', number, hnumber, hlong⟩)
        · exact absurd ⟨numbers, hcount, hbegins⟩ hends
        · rw [Option.eq_none_iff_forall_ne_some]
          intro length hmeasure
          obtain ⟨lengths, hsome, hlimit, -⟩ := measure?_eq_some_iff.mp hmeasure
          -- the numbers of the shorter run are the first ones of the longer run
          have hshorter := lengths?_take hsome hfront
          rw [lengths?_eq_some_iff.mpr ⟨front, rfl, hbegins', rfl⟩] at hshorter
          have hmem : number.length ∈ lengths.take front.length :=
            Option.some.inj hshorter ▸ List.mem_map_of_mem hnumber
          exact absurd (hlimit _ (List.mem_of_mem_take hmem)) (Nat.not_le.mpr hlong)

/-! ## Measuring, skipping and decoding -/

/-- Measuring a run fails exactly if the bytes end before its last number does, or one of its
numbers takes more than ten bytes; then decoding fails as well. The measure of a run lies inside of
the bytes, skipping comes to the same, and decoding takes exactly that many bytes, without a read
outside of them and without a shift by 64 or more, both of the words as they are and of their
running sums, which wrap. -/
theorem measure?_agrees_with_decoding (bytes : Bytes) (count : Nat) :
    (measure? count bytes = none ↔
      (¬ ∃ numbers, numbers.length = count ∧ BeginsWith bytes numbers) ∨
        ∃ numbers, numbers.length ≤ count ∧ BeginsWith bytes numbers ∧
          ∃ number ∈ numbers, maxLength < number.length) ∧
    (measure? count bytes = none →
      decode? bytes count = none ∧ ∀ previous, decodeSums? bytes previous count = none) ∧
    ∀ length, measure? count bytes = some length →
      length ≤ bytes.length ∧ skip? count bytes = some length ∧
      ∃ values, values.length = count ∧ readRun count bytes = ⟨values, some (bytes.drop length)⟩ ∧
        decode? bytes count = some (values, length) ∧
        ∀ previous,
          decodeSums? bytes previous count = some (Gaps.sumsFrom previous values, length) ∧
          (Gaps.sumsFrom previous values).map UInt64.toNat =
            (List.range count).map fun index =>
              (previous.toNat + ((values.take (index + 1)).map UInt64.toNat).sum) %
                UInt64.size := by
  refine ⟨measure?_eq_none_iff, ?_, ?_⟩
  · intro hmeasure
    have hdecode : decode? bytes count = none := decodeFrom?_of_measure?_eq_none hmeasure
    refine ⟨hdecode, fun previous => ?_⟩
    rw [decodeSums?, decodeSumsFrom?_eq, ← decode?, hdecode, Option.map_none]
  · intro length hmeasure
    obtain ⟨rest, hrest⟩ := exists_readRun hmeasure
    obtain ⟨front, rfl, -, hvalues, hmeasure', hskip⟩ := split_of_readRun hrest
    obtain rfl : front.length = length := Option.some.inj (hmeasure'.symm.trans hmeasure)
    have hdecode : decode? (front ++ rest) count =
        some ((readRun count (front ++ rest)).values, front.length) := decode?_of_measure? hmeasure
    refine ⟨by simp, hskip, (readRun count (front ++ rest)).values, hvalues, ?_, hdecode, ?_⟩
    · rw [List.drop_left, ← hrest]
    · intro previous
      rw [decodeSums?, decodeSumsFrom?_eq, ← decode?, hdecode, Option.map_some,
        Gaps.map_toNat_sumsFrom, hvalues]
      exact ⟨rfl, rfl⟩

/-- Two numbers with part of a third one behind them: two can be measured, and their sums wrap;
three cannot. -/
theorem measure?_agrees_with_decoding_unfinished :
    measure? 2 [0xAC, 0x02, 0x01, 0x80] = some 3 ∧
      skip? 2 [0xAC, 0x02, 0x01, 0x80] = some 3 ∧
      decode? [0xAC, 0x02, 0x01, 0x80] 2 = some ([300, 1], 3) ∧
      decodeSums? [0xAC, 0x02, 0x01, 0x80] 0xFFFFFFFFFFFFFFFF 2 = some ([299, 300], 3) ∧
      measure? 3 [0xAC, 0x02, 0x01, 0x80] = none ∧ decode? [0xAC, 0x02, 0x01, 0x80] 3 = none := by
  have hmeasure : measure? 2 [0xAC, 0x02, 0x01, 0x80] = some 3 := by decide
  have hunfinished : measure? 3 [0xAC, 0x02, 0x01, 0x80] = none := by decide
  obtain ⟨-, -, htwo⟩ := measure?_agrees_with_decoding [0xAC, 0x02, 0x01, 0x80] 2
  obtain ⟨-, hthree, -⟩ := measure?_agrees_with_decoding [0xAC, 0x02, 0x01, 0x80] 3
  obtain ⟨-, hskip, values, -, hrun, hdecode, hsums⟩ := htwo 3 hmeasure
  obtain rfl : values = [300, 1] := (congrArg Run.values hrun).symm.trans (by decide)
  exact ⟨hmeasure, hskip, hdecode, (hsums _).1, hunfinished, (hthree hunfinished).1⟩

end Varint

end CompactAdjacency
