import ObjectStatus.Proofs.Reading.Shown

/-!
# Reading what is laid out

A layout cuts a name off and fills its column up. What then stands in the column is settled by a few
rules: how much of the name is kept, how wide the column is, and how the filling is shared out
between the two sides. A word without a name stands as it is, whatever the layout.

As long as a column is filled up with blanks and the layout cuts nothing off, what stands in it is
read as the code or the word that was laid out.
-/

namespace ObjectStatus

/-! ## Columns -/

namespace Text

/-- The filling stands on the side away from the text, or on both sides alike, where the side behind
may have one character more. -/
def Alignment.SharesOut (alignment : Alignment) (before behind : Nat) : Prop :=
  match alignment with
  | .left => before = 0
  | .right => behind = 0
  | .center => behind = before ∨ behind = before + 1

namespace Layout

/-- How many characters are kept of a text that has so many. -/
def kept (layout : Layout) (length : Nat) : Nat :=
  match layout.precision with
  | none => length
  | some limit => min limit length

/-- The layout cuts nothing off the text. -/
def Spares (layout : Layout) (text : List Char) : Prop :=
  ∀ limit ∈ layout.precision, text.length ≤ limit

/-- The second text is what stands in a column in which the first one is laid out. -/
structure IsPlaced (layout : Layout) (text placed : List Char) : Prop where
  /-- The filling is shared out around the characters of the text that are kept. -/
  exists_filling : ∃ before behind,
    layout.alignment.SharesOut before behind ∧
      placed =
        List.replicate before layout.fill ++ text.take (layout.kept text.length) ++
          List.replicate behind layout.fill
  /-- The column is as wide as asked for, or as wide as what is kept. -/
  length_eq : placed.length = max layout.width (layout.kept text.length)

theorem kept_le
    (layout : Layout)
    (length : Nat) : layout.kept length ≤ length := by
  unfold kept
  cases layout.precision with
  | none => exact Nat.le_refl length
  | some limit => exact Nat.min_le_right limit length

theorem keep_eq_take
    (layout : Layout)
    (text : List Char) : layout.keep text = text.take (layout.kept text.length) := by
  unfold keep kept
  cases layout.precision with
  | none => exact List.take_length.symm
  | some limit => exact List.take_eq_take_min

@[simp] theorem length_keep
    (layout : Layout)
    (text : List Char) : (layout.keep text).length = layout.kept text.length := by
  rw [keep_eq_take, List.length_take, Nat.min_eq_left (layout.kept_le text.length)]

theorem keep_of_spares
    {layout : Layout}
    {text : List Char}
    (spares : layout.Spares text) : layout.keep text = text := by
  unfold Spares at spares
  unfold keep
  cases precision_eq : layout.precision with
  | none => rfl
  | some limit => exact List.take_of_length_le (spares limit precision_eq)

theorem sharesOut_before
    (layout : Layout)
    (missing : Nat) :
    layout.alignment.SharesOut (layout.before missing) (missing - layout.before missing) := by
  unfold Alignment.SharesOut before
  cases layout.alignment with
  | left => rfl
  | right => exact Nat.sub_self missing
  | center =>
      dsimp only
      omega

/-- There is only one way to share the filling out. -/
theorem eq_before_of_sharesOut
    {layout : Layout}
    {before behind : Nat}
    (shared : layout.alignment.SharesOut before behind) :
    before = layout.before (before + behind) := by
  unfold Alignment.SharesOut at shared
  unfold Layout.before
  cases alignment_eq : layout.alignment with
  | left =>
      rw [alignment_eq] at shared
      exact shared
  | right =>
      rw [alignment_eq] at shared
      dsimp only at shared ⊢
      omega
  | center =>
      rw [alignment_eq] at shared
      dsimp only at shared ⊢
      omega

/-- The rules of a column are met by what the layout places in it, and by nothing else. -/
theorem isPlaced_iff
    {layout : Layout}
    {text placed : List Char} : layout.IsPlaced text placed ↔ layout.place text = placed := by
  constructor
  · rintro ⟨⟨before, behind, shared, rfl⟩, length_eq⟩
    rw [← keep_eq_take, List.length_append, List.length_append, List.length_replicate,
      List.length_replicate, length_keep] at length_eq
    have missing_eq : layout.width - layout.kept text.length = before + behind := by omega
    have behind_eq : before + behind - before = behind := by omega
    rw [place, length_keep, missing_eq, ← eq_before_of_sharesOut shared, behind_eq, keep_eq_take]
  · rintro rfl
    refine ⟨⟨_, _, layout.sharesOut_before (layout.width - layout.kept text.length), ?_⟩, ?_⟩
    · rw [place, length_keep, keep_eq_take]
    · rw [length_place, length_keep]

/-- A text without blanks is found again among blanks. -/
theorem trim_place
    {layout : Layout}
    {text : List Char}
    (blank : isBlank layout.fill = true)
    (plain : ∀ character ∈ text, isBlank character = false)
    (spares : layout.Spares text) : trim (layout.place text) = text := by
  have filling_blank (count : Nat) :
      ∀ character ∈ List.replicate count layout.fill, isBlank character = true := by
    intro character member
    rwa [List.eq_of_mem_replicate member]
  rw [place, keep_of_spares spares]
  exact (isTrimmed_append plain (filling_blank _) (filling_blank _)).trim_eq

end Layout
end Text

/-! ## Codes and words in a column -/

/-- The name of a code is found again in its column. -/
theorem Code.isNamedBy_trim_laidOut
    {layout : Text.Layout}
    (blank : Text.isBlank layout.fill = true)
    (code : Code)
    (spares : layout.Spares code.name.toList) :
    code.IsNamedBy (Text.trim (code.laidOut layout).toList) := by
  have plain : ∀ character ∈ code.name.toList, Text.isBlank character = false :=
    fun character member => Text.isBlank_of_isAlphanum (code.isAlphanum_name character member)
  rw [laidOut, String.toList_ofList, Text.Layout.trim_place blank plain spares]
  exact code.isNamedBy_name

theorem Numeral.hexByte_eq (byte : UInt8) :
    hexByte byte =
      ['0', 'x', Nat.digitChar (byte.toNat / 16), Nat.digitChar (byte.toNat % 16)] := by
  unfold hexByte padded
  have below : byte.toNat < 256 := byte.toNat_lt
  by_cases small : byte.toNat < 16
  · rw [Nat.toDigits_of_lt_base small, Nat.div_eq_of_lt small, Nat.mod_eq_of_lt small]
    rfl
  · have quotient_lt : byte.toNat / 16 < 16 := by omega
    rw [Nat.toDigits_of_base_le (by decide) (Nat.le_of_not_lt small),
      Nat.toDigits_of_lt_base quotient_lt]
    rfl

namespace Word

theorem laidOut_of_known
    {word : Word}
    {code : Code}
    (known_eq : word.known = some code)
    (layout : Text.Layout) : word.laidOut layout = code.laidOut layout := by
  rw [laidOut, known_eq]

/-- A word without a name takes no notice of the layout. -/
theorem laidOut_of_known_eq_none
    {word : Word}
    (unnamed : word.known = none)
    (layout : Text.Layout) : word.laidOut layout = word.hex := by
  rw [laidOut, unnamed]

end Word

namespace Reading

/-- What a layout makes of codes and words, and what is read of it. -/
structure IsLegible (layout : Text.Layout) : Prop where
  /-- What stands for a code is its name in a column. -/
  isPlaced_iff : ∀ (code : Code) placed,
    layout.IsPlaced code.name.toList placed ↔ (code.laidOut layout).toList = placed
  /-- A word with a name is laid out as the code. -/
  laidOut_named : ∀ word code, Word.known word = some code →
    word.laidOut layout = code.laidOut layout
  /-- A word without a name is its two hexadecimal digits after the mark, in every layout. -/
  laidOut_unnamed : ∀ word, Word.known word = none →
    (word.laidOut layout).toList =
      ['0', 'x', Nat.digitChar (word.raw.toNat / 16), Nat.digitChar (word.raw.toNat % 16)]
  /-- Zeros that are asked for are not put in. -/
  laidOut_zeros : ∀ (word : Word) zeros,
    word.laidOut { layout with zeros := zeros } = word.laidOut layout
  /-- Among blanks, a name that is not cut off is read as its code. -/
  read_code : Text.isBlank layout.fill = true →
    ∀ code : Code, layout.Spares code.name.toList → Code.read (code.laidOut layout) = .ok code
  /-- A word with a name, laid out in the same way, is read as the code. -/
  ofText?_named : Text.isBlank layout.fill = true →
    ∀ word code, Word.known word = some code → layout.Spares word.text.toList →
      ofText? (word.laidOut layout) = some (.code code)
  /-- A word without a name is read as it is. -/
  ofText?_unnamed : ∀ word, Word.known word = none →
    ofText? (word.laidOut layout) = some (.word word)

/-- Every layout shows codes and words in such a way that they are read back, unless it cuts them
off or fills its columns up with something else than blanks. -/
theorem isLegible (layout : Text.Layout) : IsLegible layout where
  isPlaced_iff code placed := by
    rw [Text.Layout.isPlaced_iff, Code.laidOut, String.toList_ofList]
  laidOut_named _ _ known_eq := Word.laidOut_of_known known_eq layout
  laidOut_unnamed word unnamed := by
    rw [Word.laidOut_of_known_eq_none unnamed, Word.hex, String.toList_ofList, Numeral.hexByte_eq]
  laidOut_zeros _ _ := rfl
  read_code blank code spares :=
    Code.read_of_isNamedBy (code.isNamedBy_trim_laidOut blank spares)
  ofText?_named blank word code known_eq spares := by
    obtain rfl := Word.known_eq_some_iff.1 known_eq
    rw [Word.text_word] at spares
    rw [Word.laidOut_of_known known_eq]
    exact ofText?_of_isNamedBy (code.isNamedBy_trim_laidOut blank spares)
  ofText?_unnamed word unnamed := by
    have shown := word.ofText?_text
    rw [Word.text_of_known_eq_none unnamed, Word.reading, unnamed] at shown
    rw [Word.laidOut_of_known_eq_none unnamed, shown]

/-- With one character to spare, the space behind a centred name is the odd one. -/
example :
    Code.ready.laidOut { alignment := .center, zeros := true, width := 8, precision := some 5 } =
      " READY  " := by
  decide +kernel

end Reading
end ObjectStatus
