import ObjectStatus.Proofs.Reading.Shown
import ObjectStatus.Proofs.Table.Arguments
import ObjectStatus.Proofs.Text.Lines

/-!
# The keys of the table

The first field of a row is its key: it shows what the row is about by a text that the command reads
as the same again. The keys of an output, given to the command as its arguments, therefore bring the
same output back, and they do not depend on the format of the rows.
-/

namespace ObjectStatus
namespace Table

/-! ## The first field of a row -/

/-- The character behind every field of a row but the last. -/
def Format.separator : Format → Char
  | .plain => ' '
  | .csv => ','

/-- The text of a row up to its first separator. -/
def Format.firstField
    (format : Format)
    (line : String) : String :=
  String.ofList (line.toList.takeWhile fun character => character ≠ format.separator)

theorem Format.isAlphanum_separator (format : Format) : format.separator.isAlphanum = false := by
  cases format <;> rfl

/-- A text at the left of a column is followed by blanks only. -/
theorem leftColumn_eq_append
    (width : Nat)
    (text : List Char) :
    leftColumn width text = text ++ List.replicate (width - text.length) ' ' := by
  simp [leftColumn, Text.Layout.place, Text.Layout.keep, Text.Layout.before]

theorem exists_toList_codeRow_eq
    (format : Format)
    (code : Code) :
    ∃ rest, (codeRow format code).toList = code.name.toList ++ format.separator :: rest := by
  cases format with
  | plain =>
      simp only [codeRow, plainColumns, String.toList_ofList,
        leftColumn_eq_append 10 code.name.toList, List.append_assoc]
      -- The separator is the first blank that fills the column up, or the one behind the column.
      cases 10 - code.name.toList.length with
      | zero => exact ⟨_, rfl⟩
      | succ missing => exact ⟨_, rfl⟩
  | csv =>
      simp only [codeRow, String.intercalate_cons_cons, String.toList_append, List.append_assoc]
      exact ⟨_, rfl⟩

theorem exists_toList_wordRow_eq
    (format : Format)
    (word : Word) :
    ∃ rest, (wordRow format word).toList = word.hex.toList ++ format.separator :: rest := by
  cases format with
  | plain =>
      simp only [wordRow, String.toList_append, List.append_assoc]
      exact ⟨_, rfl⟩
  | csv =>
      simp only [wordRow, String.intercalate_cons_cons, String.toList_append, List.append_assoc]
      exact ⟨_, rfl⟩

/-- A row begins with the text of what it is about, and goes on behind a separator. -/
theorem exists_toList_row_eq
    (format : Format)
    (reading : Reading) :
    ∃ rest, (row format reading).toList = reading.text.toList ++ format.separator :: rest := by
  cases reading with
  | code code => exact exists_toList_codeRow_eq format code
  | word word => exact exists_toList_wordRow_eq format word

/-- The first field of a row shows what the row is about, in either format. -/
theorem firstField_row
    (format : Format)
    (reading : Reading) : format.firstField (row format reading) = reading.text := by
  obtain ⟨rest, row_eq⟩ := exists_toList_row_eq format reading
  have no_separator :
      ∀ character ∈ reading.text.toList, decide (character ≠ format.separator) = true := by
    intro character member
    rw [decide_eq_true_iff]
    rintro rfl
    have alphanumeric := reading.isAlphanum_text format.separator member
    rw [format.isAlphanum_separator] at alphanumeric
    contradiction
  rw [Format.firstField, row_eq, List.takeWhile_append_of_pos no_separator,
    List.takeWhile_cons_of_neg (by simp), List.append_nil, String.ofList_toList]

/-! ## The keys of an output -/

/-- The keys of the rows that the command prints for these arguments. -/
def keys
    (environment : Environment)
    (arguments : List String) : List String :=
  (Text.lines (run environment arguments).standardOutput).map
    (Format.ofEnvironment environment).firstField

/-- The text is the key of what was read: the name of a code, which is read as this code, or a
hexadecimal literal of a word, which is read as this word and not as a code. -/
def IsKeyOf (key : String) : Reading → Prop
  | .code code => key = code.name ∧ Reading.ofText? key = some (.code code)
  | .word word =>
      (∃ digits,
          key.toList = '0' :: 'x' :: digits ∧
            Numeral.IsDigits 16 digits word.raw.toNat) ∧
        Reading.ofText? key = some (.word word) ∧
          ∀ code, Code.read key ≠ .ok code

theorem isKeyOf_text
    {text : String}
    {reading : Reading}
    (read : Reading.ofText? text = some reading) : IsKeyOf reading.text reading := by
  have shown := Reading.ofText?_text read
  cases reading with
  | code code => exact ⟨rfl, shown⟩
  | word word =>
      refine ⟨word.exists_toList_hex_eq, shown, ?_⟩
      intro code read_code
      simp [Reading.ofText?, read_code] at shown

/-- What was read once is read from its keys again, in the same order. -/
theorem filterMap_text
    {readings : List Reading}
    (read : ∀ reading ∈ readings, ∃ text, Reading.ofText? text = some reading) :
    (readings.map Reading.text).filterMap Reading.ofText? = readings := by
  induction readings with
  | nil => rfl
  | cons reading rest inductionHypothesis =>
      obtain ⟨⟨text, read_first⟩, read_rest⟩ := List.forall_mem_cons.mp read
      rw [List.map_cons, List.filterMap_cons_some (Reading.ofText?_text read_first),
        inductionHypothesis read_rest]

theorem exists_ofText?_eq
    {arguments : List String}
    {reading : Reading}
    (member : reading ∈ arguments.filterMap Reading.ofText?) :
    ∃ text, Reading.ofText? text = some reading := by
  obtain ⟨text, -, read⟩ := List.mem_filterMap.1 member
  exact ⟨text, read⟩

theorem lines_standardOutput
    (environment : Environment)
    {arguments : List String}
    (nonempty : arguments ≠ []) :
    Text.lines (run environment arguments).standardOutput =
      (arguments.filterMap Reading.ofText?).map (row (Format.ofEnvironment environment)) := by
  have single :
      ∀ line ∈ (arguments.filterMap Reading.ofText?).map (row (Format.ofEnvironment environment)),
        '\n' ∉ line.toList := by
    rw [List.forall_mem_map]
    exact fun reading _ => newline_not_mem_row (Format.ofEnvironment environment) reading
  rw [(showsEach environment nonempty).standardOutput_eq, ← Text.lines_join single, List.map_map]
  rfl

theorem keys_eq_map_text
    (environment : Environment)
    {arguments : List String}
    (nonempty : arguments ≠ []) :
    keys environment arguments = (arguments.filterMap Reading.ofText?).map Reading.text := by
  rw [keys, lines_standardOutput environment nonempty, List.map_map]
  exact List.map_congr_left fun reading _ =>
    firstField_row (Format.ofEnvironment environment) reading

/-- What becomes of the keys of an output when they are the arguments of the command, in the same
environment or in another one, which may ask for the other format. -/
structure FeedsBack
    (environment other : Environment)
    (arguments : List String) : Prop where
  /-- The output has a row for each argument that stands for something. -/
  rows_eq :
    Text.lines (run environment arguments).standardOutput =
      (arguments.filterMap Reading.ofText?).map (row (Format.ofEnvironment environment))
  /-- Each row has the key of what it is about. -/
  keys_isKeyOf :
    List.Forall₂ IsKeyOf (keys environment arguments) (arguments.filterMap Reading.ofText?)
  /-- The keys do not depend on the format. -/
  keys_eq : keys other arguments = keys environment arguments
  /-- Every key stands for something. -/
  key_read : ∀ key ∈ keys environment arguments, (Reading.ofText? key).isSome
  /-- The keys bring the same output back. -/
  standardOutput_eq :
    (run environment (keys environment arguments)).standardOutput =
      (run environment arguments).standardOutput
  /-- No key is a failure. -/
  failures_eq : (run environment (keys environment arguments)).failures = 0

/-- Whatever the arguments, the keys of their rows can be fed back, as long as there is a row. -/
theorem feedsBack
    (environment other : Environment)
    {arguments : List String}
    (readable : ∃ argument ∈ arguments, (Reading.ofText? argument).isSome) :
    FeedsBack environment other arguments := by
  obtain ⟨argument, member, isSome⟩ := readable
  obtain ⟨reading, read⟩ := Option.isSome_iff_exists.1 isSome
  have nonempty : arguments ≠ [] := List.ne_nil_of_mem member
  have keys_eq := keys_eq_map_text environment nonempty
  have reading_mem : reading ∈ arguments.filterMap Reading.ofText? :=
    List.mem_filterMap.2 ⟨argument, member, read⟩
  have keys_nonempty : keys environment arguments ≠ [] := by
    rw [keys_eq]
    exact List.ne_nil_of_mem (List.mem_map_of_mem reading_mem)
  have readings_eq :
      (keys environment arguments).filterMap Reading.ofText? =
        arguments.filterMap Reading.ofText? := by
    rw [keys_eq]
    exact filterMap_text fun _ => exists_ofText?_eq
  have key_read : ∀ key ∈ keys environment arguments, (Reading.ofText? key).isSome := by
    rw [keys_eq, List.forall_mem_map]
    intro shown shown_mem
    obtain ⟨text, read_text⟩ := exists_ofText?_eq shown_mem
    rw [Reading.ofText?_text read_text]
    rfl
  exact
    { rows_eq := lines_standardOutput environment nonempty
      keys_isKeyOf := by
        rw [keys_eq, List.forall₂_map_left_iff, List.forall₂_same]
        intro shown shown_mem
        obtain ⟨text, read_text⟩ := exists_ofText?_eq shown_mem
        exact isKeyOf_text read_text
      keys_eq := by rw [keys_eq, keys_eq_map_text other nonempty]
      key_read := key_read
      standardOutput_eq := by
        rw [(showsEach environment keys_nonempty).standardOutput_eq,
          (showsEach environment nonempty).standardOutput_eq, readings_eq]
      failures_eq := by
        rw [(showsEach environment keys_nonempty).failures_eq, length_unread_eq_zero_iff]
        rintro ⟨key, key_mem, unread_key⟩
        have key_isSome := key_read key key_mem
        simp [unread_key] at key_isSome }

/-- A code with a label, a word in base ten after a plus sign and a word with zeros in front have
their names and literals as keys, and a text that stands for nothing has none. -/
theorem feedsBack_of_spellings :
    FeedsBack .empty (Environment.empty.set Format.variableName "csv".toUTF8.toList)
      [" mpr_status_ready", "linked", "+62", "0X00006", "126"] :=
  feedsBack _ _ ⟨"+62", by decide, by decide +kernel⟩

example : keys .empty ["linked", "+62", "126"] = ["0x3e", "ACTIVE"] := by
  decide +kernel

end Table
end ObjectStatus
