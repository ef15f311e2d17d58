import Mathlib
import CompactAdjacency.Proofs.Config.PropertyLines

/-!
# Reading rendered configurations

`Config.render` writes a comment and one plain line for each key, so that any reader of property
files finds the values of `Config.toTable`. None of them is blank but an empty list of aggregations,
which reads back as one: every name and number is read from the text it is written as,
`Strategy.ofText_name`, `Aggregation.listOfText_names` and `readKey_number`.
-/

namespace CompactAdjacency

/-! ## Names -/

/-- The characters of a name are visible, and none of them is a backslash. -/
theorem Strategy.visible_name (strategy : Strategy) :
    ∀ char ∈ strategy.name.toList, Text.IsVisible char ∧ char ≠ '\\' := by
  cases strategy <;> simp [name, Text.IsVisible]

theorem Strategy.ofText_name (strategy : Strategy) :
    Strategy.ofText strategy.name.toList = .ok strategy := by
  cases strategy <;> rfl

namespace Aggregation

theorem ofText_name (aggregation : Aggregation) :
    ofText aggregation.name.toList = .ok aggregation := by
  cases aggregation <;> rfl

/-- The characters of a name are visible, and none of them is a backslash. -/
theorem visible_name (aggregation : Aggregation) :
    ∀ char ∈ aggregation.name.toList, Text.IsVisible char ∧ char ≠ '\\' := by
  cases aggregation <;> simp [name, Text.IsVisible]

theorem comma_notMem_name (aggregation : Aggregation) : ',' ∉ aggregation.name.toList := by
  cases aggregation <;> decide

theorem toList_name_ne_nil (aggregation : Aggregation) : aggregation.name.toList ≠ [] := by
  cases aggregation <;> simp [name]

/-- The text of a list of aggregations. -/
theorem toList_intercalate_names (aggregations : List Aggregation) :
    (String.intercalate "," (aggregations.map name)).toList =
      [','].intercalate (aggregations.map fun aggregation => aggregation.name.toList) := by
  rw [String.toList_intercalate, List.map_map]
  rfl

/-- The characters of a list of names are visible, and none of them is a backslash. -/
theorem visible_names (aggregations : List Aggregation) :
    ∀ char ∈ (String.intercalate "," (aggregations.map name)).toList,
      Text.IsVisible char ∧ char ≠ '\\' := by
  rw [toList_intercalate_names]
  intro char hchar
  rcases Text.mem_intercalate hchar with rfl | ⟨piece, hpiece, hmem⟩
  · decide
  · obtain ⟨aggregation, -, rfl⟩ := List.mem_map.mp hpiece
    exact aggregation.visible_name char hmem

/-- Names are read one by one. -/
theorem mapM_ofText_names (aggregations : List Aggregation) :
    (aggregations.map fun aggregation => aggregation.name.toList).mapM ofText =
      .ok aggregations := by
  induction aggregations with
  | nil => rfl
  | cons aggregation others ih =>
      rw [List.map_cons, List.mapM_cons, ofText_name, ih]
      rfl

/-- A list of names reads back, also if there is none. -/
theorem listOfText_names (aggregations : List Aggregation) :
    listOfText (String.intercalate "," (aggregations.map name)).toList = .ok aggregations := by
  have hpieces := Text.filter_splitOn_intercalate
    (List.forall_mem_map.mpr fun aggregation (_ : aggregation ∈ aggregations) =>
      comma_notMem_name aggregation)
    (List.forall_mem_map.mpr fun aggregation _ => toList_name_ne_nil aggregation)
    (List.forall_mem_map.mpr fun aggregation _ char hchar =>
      (aggregation.visible_name char hchar).1)
  rw [listOfText, toList_intercalate_names, hpieces, mapM_ofText_names]

end Aggregation

namespace Config

/-! ## Values -/

variable {table : Table} {key : String}

/-- The digits of a number. -/
theorem toList_toString (value : UInt64) :
    (toString value.toNat).toList = Nat.toDigits 10 value.toNat := by
  rw [Nat.toString_eq_repr, Nat.toList_repr]

theorem isDigit_of_mem_toString {value : UInt64} {char : Char}
    (h : char ∈ (toString value.toNat).toList) : char.isDigit = true := by
  rw [toList_toString] at h
  exact Nat.isDigit_of_mem_toDigits (by decide) (by decide) h

/-- A visible value is read as it is. -/
theorem readKey_of_visible {α : Type} {value : String} (hvalue : table.value? key = some value)
    (hsome : value.toList ≠ []) (hvisible : ∀ char ∈ value.toList, Text.IsVisible char)
    {read : List Char → Option α} {result : α} (hread : read value.toList = some result) :
    readKey table key read = .ok (some result) := by
  have htrim := Text.trim_of_visible hvisible
  obtain ⟨first, rest, hchars⟩ := List.exists_cons_of_ne_nil hsome
  rw [hchars] at htrim hread
  simp only [readKey, hvalue, hchars, htrim, hread]

/-- A number is read from its digits. -/
theorem readKey_number {value : UInt64}
    (hvalue : table.value? key = some (toString value.toNat)) :
    readKey table key Text.word? = .ok (some value) := by
  refine readKey_of_visible hvalue ?_ ?_ ?_
  · rw [toList_toString]
    exact Nat.toDigits_ne_nil
  · intro char hchar
    exact Text.isVisible_of_isDigit (isDigit_of_mem_toString hchar)
  · rw [toList_toString]
    exact Text.word?_toDigits value

/-- A configuration is read from any table with the values of its own. -/
theorem ofTable_of_values {config : Config} (h : config.check = .ok ()) (workers : UInt64)
    (htable : ∀ key, table.value? key = config.toTable.value? key) :
    ofTable workers table = .ok config := by
  have hstrategy : readKey table "strategy" (fun text => (Strategy.ofText text).toOption) =
      .ok (some config.strategy) := by
    refine readKey_of_visible ((htable "strategy").trans rfl) ?_
      (fun char hchar => (config.strategy.visible_name char hchar).1) ?_
    · cases config.strategy <;> simp [Strategy.name]
    · rw [Strategy.ofText_name]
      rfl
  have haggregation : readKey table "aggregation"
      (fun text => (Aggregation.ofText text).toOption) = .ok (some config.aggregation) := by
    refine readKey_of_visible ((htable "aggregation").trans rfl) ?_
      (fun char hchar => (config.aggregation.visible_name char hchar).1) ?_
    · exact config.aggregation.toList_name_ne_nil
    · rw [Aggregation.ofText_name]
      rfl
  have hthreshold : readKey table "packedthreshold" Text.word? = .ok (some config.threshold) :=
    readKey_number ((htable "packedthreshold").trans rfl)
  have hcount : readKey table "propertycount" Text.word? = .ok (some config.channelCount) :=
    readKey_number ((htable "propertycount").trans rfl)
  have hworkers : readKey table "concurrency" Text.word? = .ok (some config.workers) :=
    readKey_number ((htable "concurrency").trans rfl)
  have hpage : readKey table "arenapagesize" Text.word? = .ok (some config.pageSize) :=
    readKey_number ((htable "arenapagesize").trans rfl)
  have hchannels : table.value? "propertyaggregations" =
      some (String.intercalate "," (config.channelAggregations.map Aggregation.name)) :=
    (htable "propertyaggregations").trans rfl
  simp only [ofTable, hstrategy, haggregation, hthreshold, hcount, hworkers, hpage, hchannels,
    Aggregation.listOfText_names, bind, Except.bind, Option.getD_some, h]
  rfl

/-! ## Lines -/

/-- The lines that are written for a configuration. -/
def lines (config : Config) : List PropertyFile.PropertyLine :=
  .comment "Compressed adjacency properties".toList ::
    config.toTable.map fun entry => .entry entry.1.toList entry.2.toList

/-- The lines give the table. -/
theorem filterMap_given_lines (config : Config) :
    config.lines.filterMap PropertyFile.PropertyLine.given = config.toTable := by
  rw [lines, List.filterMap_cons_none rfl, List.filterMap_map]
  conv_rhs => rw [← List.filterMap_some (l := config.toTable)]
  refine List.filterMap_congr ?_
  intro entry _
  simp [PropertyFile.PropertyLine.given]

/-- The text of the lines is what is written. -/
theorem fileText_lines (config : Config) :
    String.ofList (PropertyFile.fileText config.lines) = config.render := by
  have hcomment : (PropertyFile.PropertyLine.comment "Compressed adjacency properties".toList).chars
      ++ ['\n'] = "#Compressed adjacency properties\n".toList := rfl
  have hentries : (config.toTable.map fun entry =>
      PropertyFile.PropertyLine.entry entry.1.toList entry.2.toList).flatMap
        (fun line => line.chars ++ ['\n']) =
      (config.toTable.map fun entry => entry.1 ++ "=" ++ entry.2 ++ "\n").flatMap
        String.toList := by
    rw [List.flatMap_map, List.flatMap_map]
    refine List.flatMap_congr ?_
    intro entry _
    simp [PropertyFile.PropertyLine.chars]
  refine String.ext ?_
  unfold render
  simp only [String.toList_ofList, String.toList_append, String.toList_join, lines,
    PropertyFile.fileText, List.flatMap_cons, hcomment, hentries]

/-- Keys are written in small letters. -/
theorem small_of_mem_toTable {config : Config} {entry : String × String}
    (h : entry ∈ config.toTable) : entry.1.toList ≠ [] ∧
      ∀ char ∈ entry.1.toList, 0x61 ≤ char.toNat ∧ char.toNat ≤ 0x7A := by
  have hkeys : config.toTable.map Prod.fst = ["strategy", "packedthreshold", "aggregation",
      "propertycount", "propertyaggregations", "concurrency", "arenapagesize"] := rfl
  have hsmall : ∀ key ∈ config.toTable.map Prod.fst, key.toList ≠ [] ∧
      ∀ char ∈ key.toList, 0x61 ≤ char.toNat ∧ char.toNat ≤ 0x7A := by
    rw [hkeys]
    simp
  exact hsmall entry.1 (List.mem_map_of_mem h)

/-- Values are visible, and nothing in them is escaped. -/
theorem visible_of_mem_toTable {config : Config} {entry : String × String}
    (h : entry ∈ config.toTable) : ∀ char ∈ entry.2.toList, Text.IsVisible char ∧ char ≠ '\\' := by
  have hnumber : ∀ value : UInt64, ∀ char ∈ (toString value.toNat).toList,
      Text.IsVisible char ∧ char ≠ '\\' := by
    intro value char hchar
    have hdigit := isDigit_of_mem_toString hchar
    refine ⟨Text.isVisible_of_isDigit hdigit, ?_⟩
    rintro rfl
    exact absurd hdigit (by decide)
  simp only [toTable, List.mem_cons, List.not_mem_nil, or_false] at h
  rcases h with rfl | rfl | rfl | rfl | rfl | rfl | rfl
  · exact config.strategy.visible_name
  · exact hnumber config.threshold
  · exact config.aggregation.visible_name
  · exact hnumber config.channelCount
  · exact Aggregation.visible_names config.channelAggregations
  · exact hnumber config.workers
  · exact hnumber config.pageSize

/-- The lines are plain. -/
theorem plain_lines (config : Config) : ∀ line ∈ config.lines, line.Plain := by
  intro line hline
  rcases List.mem_cons.mp hline with rfl | hentry
  · refine .comment _ ?_
    simp [PropertyFile.IsPlain, Text.IsVisible]
  · obtain ⟨entry, hmem, rfl⟩ := List.mem_map.mp hentry
    obtain ⟨hsome, hsmall⟩ := small_of_mem_toTable hmem
    have hvisible := visible_of_mem_toTable hmem
    obtain ⟨first, rest, hfirst⟩ := List.exists_cons_of_ne_nil hsome
    have hapart : ∀ char ∈ entry.1.toList, ∀ other : Char, other.toNat < 0x61 → char ≠ other := by
      rintro char hchar other hother rfl
      exact absurd (hsmall char hchar).1 (Nat.not_le.mpr hother)
    refine .entry _ _ ?_ ⟨first, rest, hfirst, ?_, ?_⟩ ?_ ?_
    · intro char hchar
      obtain ⟨hleast, hgreatest⟩ := hsmall char hchar
      refine ⟨⟨.inr ⟨by omega, by omega⟩, hapart char hchar _ (by decide)⟩, ?_⟩
      simp [hapart char hchar]
    · exact hapart first (hfirst ▸ List.mem_cons_self) _ (by decide)
    · exact hapart first (hfirst ▸ List.mem_cons_self) _ (by decide)
    · intro char hchar
      exact ⟨.inr (hvisible char hchar).1, (hvisible char hchar).2⟩
    · intro blank hblank
      exact absurd (hvisible ' ' (hblank ▸ List.mem_cons_self)).1 (by decide)

/-! ## Reading back -/

/-- A configuration that a build can follow is read back from what is written for it, by the reader
of property files and by any other one that reads plain lines as they are documented. -/
theorem readConfig_render {config : Config} (h : config.check = .ok ()) (workers : UInt64) :
    PropertyFile.readConfig workers config.render.toUTF8.data.toList = .ok config ∧
      ∀ read, PropertyFile.Reads read →
        (read config.render.toUTF8.data.toList).bind (ofTable workers) = .ok config := by
  have hread : ∀ read, PropertyFile.Reads read →
      (read config.render.toUTF8.data.toList).bind (ofTable workers) = .ok config := by
    intro read hreads
    obtain ⟨table, htable, hvalues⟩ := hreads config.lines config.plain_lines
    rw [config.fileText_lines] at htable
    rw [config.filterMap_given_lines] at hvalues
    rw [htable]
    exact ofTable_of_values h workers hvalues
  exact ⟨hread PropertyFile.parse PropertyFile.parse_reads, hread⟩

/-- An empty list of aggregations is read back, and one that starts with the default. -/
theorem readConfig_render_channels :
    PropertyFile.readConfig 1 (Config.default 3).render.toUTF8.data.toList =
        .ok (Config.default 3) ∧
      ∃ config : Config, config.channelAggregations = [.byDefault, .max] ∧
        (PropertyFile.parse config.render.toUTF8.data.toList).bind (ofTable 1) = .ok config := by
  have hempty : (Config.default 3).check = .ok () := rfl
  have hchannels : { Config.default 3 with
      channelAggregations := [.byDefault, .max], channelCount := 2 }.check = .ok () := rfl
  obtain ⟨hread, -⟩ := readConfig_render hempty 1
  obtain ⟨-, hreads⟩ := readConfig_render hchannels 1
  exact ⟨hread, _, rfl, hreads PropertyFile.parse PropertyFile.parse_reads⟩

end Config

end CompactAdjacency
