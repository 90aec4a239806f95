import ThreeAddress.Proofs.WireFormat

/-!
# The grammar of records

A line is cut into its longest runs of characters that are not blank, and these runs are either
the fields of an instruction, or the fields of an operation but for an unknown sign, or neither.
Reading a record tells the three apart.  The grammar is stated without the readers: a register is
named by any letter and one digit, a literal is the text of a proper numeral, and an operation has
one of two signs.
-/

namespace ThreeAddress

/-! ## Longest runs -/

namespace Text

/-- The longest runs of characters that are not blank, in order.  Blanks may stand in front of
each run, and behind a run stands a blank or nothing. -/
inductive Runs : List Char → List (List Char) → Prop
  | finish {gap : List Char} (blank : ∀ c ∈ gap, isBlank c = true) : Runs gap []
  | run {gap run rest : List Char} {runs : List (List Char)}
      (blank : ∀ c ∈ gap, isBlank c = true) (solid : Solid run)
      (apart : rest.head?.all isBlank = true) (tail : Runs rest runs) :
      Runs (gap ++ run ++ rest) (run :: runs)

/-- Blanks in front of a text do not show in its fields. -/
theorem fields_blank_append {gap : List Char} (blank : ∀ c ∈ gap, isBlank c = true)
    (rest : List Char) : fields (gap ++ rest) = fields rest := by
  induction gap with
  | nil => rfl
  | cons c gap ih =>
      rw [List.forall_mem_cons] at blank
      rw [List.cons_append, fields, if_pos blank.1, ih blank.2]

namespace Runs

variable {text : List Char} {runs : List (List Char)} {c : Char}

theorem fields_eq (cut : Runs text runs) : fields text = runs := by
  induction cut with
  | finish blank =>
      have skipped := fields_blank_append blank []
      rw [List.append_nil] at skipped
      exact skipped
  | run blank solid apart tail ih =>
      rw [List.append_assoc, fields_blank_append blank, fields_append solid apart, ih]

theorem cons_blank (isBlank_c : isBlank c = true) (cut : Runs text runs) :
    Runs (c :: text) runs := by
  cases cut with
  | finish blank => exact finish (List.forall_mem_cons.mpr ⟨isBlank_c, blank⟩)
  | run blank solid apart tail =>
      exact run (List.forall_mem_cons.mpr ⟨isBlank_c, blank⟩) solid apart tail

/-- A character that is not blank becomes part of the run that starts behind it. -/
theorem consFirst (notBlank : isBlank c = false) (inside : ¬ text.head?.all isBlank = true)
    (cut : Runs text runs) : Runs (c :: text) (Text.consFirst c runs) := by
  cases cut with
  | finish blank =>
      cases text with
      | nil => simp at inside
      | cons first gap =>
          have firstBlank := blank first (List.mem_cons_self ..)
          simp [firstBlank] at inside
  | @run gap field rest runs blank solid apart tail =>
      cases gap with
      | nil =>
          have longer : Solid (c :: field) :=
            ⟨by simp, List.forall_mem_cons.mpr ⟨notBlank, solid.not_blank⟩⟩
          exact @run [] (c :: field) rest runs (by simp) longer apart tail
      | cons first gap =>
          have firstBlank := blank first (List.mem_cons_self ..)
          simp [firstBlank] at inside

end Runs

theorem runs_fields (text : List Char) : Runs text (fields text) := by
  fun_induction fields text with
  | case1 => exact .finish (by simp)
  | case2 c rest isBlank_c ih => exact ih.cons_blank isBlank_c
  | case3 c rest notBlank apart ih =>
      have single : Solid [c] :=
        ⟨by simp, List.forall_mem_singleton.mpr (Bool.eq_false_iff.mpr notBlank)⟩
      exact @Runs.run [] [c] rest _ (by simp) single apart ih
  | case4 c rest notBlank inside ih => exact ih.consFirst (Bool.eq_false_iff.mpr notBlank) inside

end Text

/-! ## The parts of a record -/

/-- A name of the register: any letter, and the register's number as one digit. -/
def Register.NamedBy (register : Register) (name : List Char) : Prop :=
  ∃ letter, Text.isLetter letter = true ∧ register.index ≤ 9 ∧
    name = [letter, register.index.digitChar]

/-- A digit is the one of its value. -/
theorem Text.digitChar_of_isDigit {digit : Char} (isDigit : digit.isDigit = true) :
    digit.toNat - '0'.toNat ≤ 9 ∧ (digit.toNat - '0'.toNat).digitChar = digit := by
  have bounds : 48 ≤ digit.toNat ∧ digit.toNat ≤ 57 := by
    simpa [Char.isDigit, UInt32.le_iff_toNat_le] using isDigit
  have all : ∀ value < 10, value.digitChar.toNat = 48 + value := by decide
  have ofValue := all (digit.toNat - 48) (by omega)
  constructor
  · change digit.toNat - 48 ≤ 9
    omega
  · apply Char.toNat_inj.mp
    change (digit.toNat - 48).digitChar.toNat = digit.toNat
    omega

namespace Register

variable {text rest : List Char} {register : Register}

theorem namedBy_of_scan? (scanned : scan? text = some (register, rest)) :
    ∃ name, register.NamedBy name ∧ text = name ++ rest := by
  cases text with
  | nil => contradiction
  | cons letter tail =>
      cases tail with
      | nil => contradiction
      | cons digit after =>
          by_cases named : (Text.isLetter letter && digit.isDigit) = true
          · rw [scan?, if_pos named] at scanned
            cases scanned
            rw [Bool.and_eq_true] at named
            obtain ⟨small, same⟩ := Text.digitChar_of_isDigit named.2
            exact ⟨[letter, digit], ⟨letter, named.1, small, by rw [same]⟩, rfl⟩
          · rw [scan?, if_neg named] at scanned
            contradiction

theorem NamedBy.ofText?_eq (named : register.NamedBy text) : ofText? text = some register := by
  obtain ⟨letter, isLetter, small, rfl⟩ := named
  have all : ∀ index < 10, index.digitChar.isDigit = true ∧
      (⟨index.digitChar.toNat - '0'.toNat⟩ : Register) = ⟨index⟩ := by decide
  obtain ⟨isDigit, value⟩ := all register.index (Nat.lt_succ_of_le small)
  rw [ofText?, scan?, isLetter, isDigit, value]
  rfl

theorem ofText?_eq_some_iff : ofText? text = some register ↔ register.NamedBy text := by
  constructor
  · intro read
    cases scanned : scan? text with
    | none => simp [ofText?, scanned] at read
    | some result =>
        obtain ⟨found, rest⟩ := result
        cases rest with
        | cons c rest => simp [ofText?, scanned] at read
        | nil =>
            rw [ofText?, scanned] at read
            cases read
            obtain ⟨name, named, text_eq⟩ := namedBy_of_scan? scanned
            rw [text_eq, List.append_nil]
            exact named
  · intro named
    exact named.ofText?_eq

end Register

theorem Literal.ofText?_eq_some_iff {text : List Char} {literal : Literal} :
    ofText? text = some literal ↔
      ∃ number : Number, text = number.text ∧ literal = number.literal := by
  constructor
  · intro read
    cases scanned : scan? text with
    | none => simp [ofText?, scanned] at read
    | some result =>
        obtain ⟨found, rest⟩ := result
        cases rest with
        | cons c rest => simp [ofText?, scanned] at read
        | nil =>
            rw [ofText?, scanned] at read
            cases read
            obtain ⟨⟨numeral, rest⟩, numeralScanned, pair_eq⟩ := Option.map_eq_some_iff.mp scanned
            cases pair_eq
            obtain ⟨proper, text_eq, -⟩ := Numeral.scan?_eq_some_iff.mp numeralScanned
            exact ⟨⟨numeral, proper⟩, text_eq.trans (List.append_nil _), rfl⟩
  · rintro ⟨number, rfl, rfl⟩
    exact number.ofText?_text

theorem Operator.ofText?_eq_some_iff {text : List Char} {operator : Operator} :
    ofText? text = some operator ↔ text = [operator.sign] := by
  constructor
  · intro read
    by_cases isPlus : text = [add.sign]
    · rw [ofText?, if_pos isPlus] at read
      cases read
      exact isPlus
    · by_cases isTimes : text = [multiply.sign]
      · rw [ofText?, if_neg isPlus, if_pos isTimes] at read
        cases read
        exact isTimes
      · rw [ofText?, if_neg isPlus, if_neg isTimes] at read
        contradiction
  · rintro rfl
    exact operator.ofText?_sign

theorem Operator.ofText?_eq_none_iff {text : List Char} :
    ofText? text = none ↔ ∀ operator : Operator, text ≠ [operator.sign] := by
  rw [Option.eq_none_iff_forall_ne_some]
  constructor
  · intro unread operator text_eq
    exact unread operator (ofText?_eq_some_iff.mpr text_eq)
  · intro unknown operator read
    exact unknown operator (ofText?_eq_some_iff.mp read)

/-! ## Records -/

namespace Instr

/-- The fields that an instruction is read from. -/
inductive Written : List (List Char) → Instr → Prop
  | load {target : Register} {name : List Char} (named : target.NamedBy name) (number : Number) :
      Written [name, ['='], number.text] (.load target number.literal)
  | operate {target left right : Register} {name leftName rightName : List Char}
      (named : target.NamedBy name) (leftNamed : left.NamedBy leftName)
      (rightNamed : right.NamedBy rightName) (operator : Operator) :
      Written [name, ['='], leftName, [operator.sign], rightName]
        (.operate target left operator right)

/-- The fields of an operation, but for a sign that no operation has. -/
inductive Missigned : List (List Char) → List Char → Prop
  | operate {target left right : Register} {name leftName sign rightName : List Char}
      (named : target.NamedBy name) (leftNamed : left.NamedBy leftName)
      (rightNamed : right.NamedBy rightName)
      (unknown : ∀ operator : Operator, sign ≠ [operator.sign]) :
      Missigned [name, ['='], leftName, sign, rightName] sign

variable {fields : List (List Char)} {instr : Instr}

theorem Written.ofFields_eq (written : Written fields instr) (line : String) :
    ofFields line fields = .ok instr := by
  cases written with
  | load named number => simp [ofFields, named.ofText?_eq, number.ofText?_text]
  | operate named leftNamed rightNamed operator =>
      simp [ofFields, named.ofText?_eq, leftNamed.ofText?_eq, rightNamed.ofText?_eq,
        operator.ofText?_sign]

theorem Missigned.ofFields_eq {sign : List Char} (missigned : Missigned fields sign)
    (line : String) :
    ofFields line fields = .error (.unsupportedOperator (String.ofList sign) line) := by
  cases missigned with
  | operate named leftNamed rightNamed unknown =>
      simp [ofFields, named.ofText?_eq, leftNamed.ofText?_eq, rightNamed.ofText?_eq,
        Operator.ofText?_eq_none_iff.mpr unknown]

/-- All that reading some fields can give. -/
theorem ofFields_cases (line : String) (fields : List (List Char)) :
    (∃ instr, Written fields instr ∧ ofFields line fields = .ok instr) ∨
      (∃ sign, Missigned fields sign ∧
        ofFields line fields = .error (.unsupportedOperator (String.ofList sign) line)) ∨
      ofFields line fields = .error (.malformed line) := by
  fun_cases ofFields line fields with
  | case1 name value target literal valueRead targetRead =>
      obtain ⟨number, rfl, rfl⟩ := Literal.ofText?_eq_some_iff.mp valueRead
      have named := Register.ofText?_eq_some_iff.mp targetRead
      exact .inl ⟨_, .load named number, rfl⟩
  | case4 name leftName sign rightName target left right rightRead leftRead targetRead operator
      signRead =>
      have named := Register.ofText?_eq_some_iff.mp targetRead
      have leftNamed := Register.ofText?_eq_some_iff.mp leftRead
      have rightNamed := Register.ofText?_eq_some_iff.mp rightRead
      cases Operator.ofText?_eq_some_iff.mp signRead
      exact .inl ⟨_, .operate named leftNamed rightNamed operator, rfl⟩
  | case5 name leftName sign rightName target left right rightRead leftRead targetRead
      signUnread =>
      have named := Register.ofText?_eq_some_iff.mp targetRead
      have leftNamed := Register.ofText?_eq_some_iff.mp leftRead
      have rightNamed := Register.ofText?_eq_some_iff.mp rightRead
      have unknown := Operator.ofText?_eq_none_iff.mp signUnread
      exact .inr (.inl ⟨sign, .operate named leftNamed rightNamed unknown, rfl⟩)
  -- The other cases lack a register, the equals sign, the numeral or the number of fields.
  | case2 | case3 | case6 | case7 | case8 => exact .inr (.inr rfl)

theorem ofFields_eq_ok_iff {line : String} :
    ofFields line fields = .ok instr ↔ Written fields instr := by
  constructor
  · intro read
    rcases ofFields_cases line fields with ⟨other, written, found⟩ | ⟨sign, -, found⟩ | found
    · rw [found] at read
      cases read
      exact written
    · rw [found] at read
      contradiction
    · rw [found] at read
      contradiction
  · intro written
    exact written.ofFields_eq line

theorem ofFields_eq_unsupportedOperator_iff {line sign quoted : String} :
    ofFields line fields = .error (.unsupportedOperator sign quoted) ↔
      quoted = line ∧ Missigned fields sign.toList := by
  constructor
  · intro read
    rcases ofFields_cases line fields with ⟨other, -, found⟩ | ⟨field, missigned, found⟩ | found
    · rw [found] at read
      contradiction
    · rw [found] at read
      cases read
      rw [String.toList_ofList]
      exact ⟨rfl, missigned⟩
    · rw [found] at read
      cases read
  · rintro ⟨rfl, missigned⟩
    rw [missigned.ofFields_eq, String.ofList_toList]

theorem ofFields_eq_malformed_iff {line : String} :
    ofFields line fields = .error (.malformed line) ↔
      (∀ instr, ¬ Written fields instr) ∧ ∀ sign, ¬ Missigned fields sign := by
  constructor
  · intro read
    constructor
    · intro instr written
      rw [written.ofFields_eq] at read
      contradiction
    · intro sign missigned
      rw [missigned.ofFields_eq] at read
      cases read
  · rintro ⟨notWritten, notMissigned⟩
    rcases ofFields_cases line fields with ⟨instr, written, -⟩ | ⟨sign, missigned, -⟩ | found
    · exact absurd written (notWritten instr)
    · exact absurd missigned (notMissigned sign)
    · exact found

end Instr

/-- A line is read by its longest runs of characters that are not blank, which are cut in one way
only.  It is read as an instruction exactly if they are the fields of that instruction, and refused
for its sign exactly if they are the fields of an operation but for the sign.  Every other line is
malformed.  Each error quotes the line as it is. -/
theorem decode_classifies_runs (line : String) :
    ∃ runs, Text.Runs line.toList runs ∧ (∀ other, Text.Runs line.toList other → other = runs) ∧
      (∀ instr, Instr.decode line = .ok instr ↔ Instr.Written runs instr) ∧
      (∀ sign quoted, Instr.decode line = .error (.unsupportedOperator sign quoted) ↔
        quoted = line ∧ Instr.Missigned runs sign.toList) ∧
      (Instr.decode line = .error (.malformed line) ↔
        (∀ instr, ¬ Instr.Written runs instr) ∧ ∀ sign, ¬ Instr.Missigned runs sign) := by
  refine ⟨Text.fields line.toList, Text.runs_fields _, ?_, ?_, ?_, ?_⟩
  · intro other cut
    exact cut.fields_eq.symm
  · intro instr
    exact Instr.ofFields_eq_ok_iff
  · intro sign quoted
    exact Instr.ofFields_eq_unsupportedOperator_iff
  · exact Instr.ofFields_eq_malformed_iff

-- A register that is none is worse than a sign that is none.
example : Instr.decode "t1 = t2 - t33" = .error (.malformed "t1 = t2 - t33") := by
  rfl

example : Instr.decode "x1\t=  t2 ** t3 " =
    .error (.unsupportedOperator "**" "x1\t=  t2 ** t3 ") := by
  rfl

end ThreeAddress
