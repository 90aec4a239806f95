import ThreeAddress.Machine
import ThreeAddress.Proofs.Word

/-!
# Instructions as lines of text

An instruction is written as parts without blanks, separated by single spaces, on a line of its
own.  Cutting such a text into lines and fields gives the parts back, and from the parts the
instruction is read, provided that its registers have names of one digit and its literal is that of
a numeral.  This module knows nothing of where the instructions come from.
-/

namespace ThreeAddress

namespace Text

/-- A text that is one field. -/
structure Solid (text : List Char) : Prop where
  ne_nil : text ≠ []
  not_blank : ∀ c ∈ text, isBlank c = false

/-- A line without line feeds and carriage returns is cut off at the line feed behind it. -/
theorem lines_append_newline {line : List Char} (rest : List Char)
    (unbroken : ∀ c ∈ line, c ≠ '\n' ∧ c ≠ '\r') :
    lines (line ++ '\n' :: rest) = line :: lines rest := by
  induction line with
  | nil => rfl
  | cons c line ih =>
      rw [List.forall_mem_cons] at unbroken
      simp [lines, unbroken.1, ih unbroken.2, consFirst]

/-- A field is cut off where a blank or nothing follows. -/
theorem fields_append {field rest : List Char} (solid : Solid field)
    (apart : rest.head?.all isBlank = true) : fields (field ++ rest) = field :: fields rest := by
  obtain ⟨ne_nil, not_blank⟩ := solid
  induction field with
  | nil => contradiction
  | cons c field ih =>
      rw [List.forall_mem_cons] at not_blank
      cases field with
      | nil => simp [fields, not_blank.1, apart]
      | cons next field =>
          have inside : isBlank next = false := not_blank.2 next (List.mem_cons_self ..)
          have tail := ih (by simp) not_blank.2
          rw [List.cons_append, fields, if_neg (by simp [not_blank.1]), if_neg (by simp [inside]),
            tail]
          rfl

/-- Parts that are joined by spaces are the fields of the whole. -/
theorem fields_intercalate {parts : List (List Char)} (solid : ∀ part ∈ parts, Solid part) :
    fields ([' '].intercalate parts) = parts := by
  induction parts with
  | nil => rfl
  | cons part parts ih =>
      rw [List.forall_mem_cons] at solid
      cases parts with
      | nil =>
          have only := @fields_append part [] solid.1 rfl
          rw [List.append_nil] at only
          rw [List.intercalate_singleton]
          exact only
      | cons next parts =>
          rw [List.intercalate_cons_cons, List.append_assoc, fields_append solid.1 rfl,
            List.singleton_append, fields, if_pos (by decide), ih solid.2]

/-- Parts that are joined by spaces make one line. -/
theorem unbroken_intercalate {parts : List (List Char)} (solid : ∀ part ∈ parts, Solid part) :
    ∀ c ∈ [' '].intercalate parts, c ≠ '\n' ∧ c ≠ '\r' := by
  have unbroken : ∀ part, Solid part → ∀ c ∈ part, c ≠ '\n' ∧ c ≠ '\r' := by
    intro part solid c member
    have notBlank := solid.not_blank c member
    constructor
    · rintro rfl
      contradiction
    · rintro rfl
      contradiction
  induction parts with
  | nil => simp
  | cons part parts ih =>
      rw [List.forall_mem_cons] at solid
      cases parts with
      | nil => simpa using unbroken part solid.1
      | cons next parts =>
          intro c member
          simp only [List.intercalate_cons_cons, List.mem_append, List.mem_singleton] at member
          rcases member with (inPart | rfl) | inRest
          · exact unbroken part solid.1 c inPart
          · decide
          · exact ih solid.2 c inRest

end Text

namespace Register

/-- The name of a register with one digit. -/
theorem toList_text {register : Register} (small : register.index ≤ 9) :
    register.text.toList = ['t', register.index.digitChar] := by
  obtain ⟨index⟩ := register
  have all : ∀ index < 10, ("t" ++ toString index).toList = ['t', index.digitChar] := by decide
  exact all index (Nat.lt_succ_of_le small)

theorem solid_text {register : Register} (small : register.index ≤ 9) :
    Text.Solid register.text.toList := by
  rw [toList_text small]
  have all : ∀ index < 10, Text.isBlank index.digitChar = false := by decide
  refine ⟨by simp, List.forall_mem_cons.mpr ⟨by decide, ?_⟩⟩
  exact List.forall_mem_singleton.mpr (all register.index (Nat.lt_succ_of_le small))

theorem ofText?_text {register : Register} (small : register.index ≤ 9) :
    ofText? register.text.toList = some register := by
  rw [toList_text small]
  have all : ∀ index < 10, ofText? ['t', index.digitChar] = some ⟨index⟩ := by decide
  exact all register.index (Nat.lt_succ_of_le small)

end Register

namespace Number

theorem toList_literal (number : Number) : number.literal.text.toList = number.text := by
  simp [literal, Literal.ofNumeral, text]

theorem solid_text (number : Number) : Text.Solid number.text := by
  refine ⟨number.property.text_ne_nil, ?_⟩
  intro c member
  rcases number.property.digit_or_point member with isDigit | rfl
  · exact Text.isBlank_eq_false_of_digit isDigit
  · decide

/-- The text of a number is read as that number and nothing else. -/
theorem ofText?_text (number : Number) : Literal.ofText? number.text = some number.literal := by
  have longest : number.val.LongestIn number.val.text := by
    intro other proper starts
    exact starts.length_le
  have read : Numeral.scan? number.val.text = some (number.val, []) :=
    Numeral.scan?_eq_some_iff.mpr ⟨number.property, by simp, longest⟩
  simp [Literal.ofText?, Literal.scan?, text, read, literal]

end Number

theorem Operator.ofText?_sign (operator : Operator) : ofText? [operator.sign] = some operator := by
  cases operator with
  | add => rfl
  | multiply => rfl

namespace Instr

/-- What an instruction is written with. -/
def parts : Instr → List (List Char)
  | load target literal => [target.text.toList, ['='], literal.text.toList]
  | operate target left operator right =>
      [target.text.toList, ['='], left.text.toList, [operator.sign], right.text.toList]

theorem toList_text (instr : Instr) : instr.text.toList = [' '].intercalate instr.parts := by
  cases instr with
  | load target literal => simp [text, parts, List.intercalate]
  | operate target left operator right => simp [text, parts, List.intercalate]

/-- The instruction can be read back from its text: its registers have one digit, and its literal
is that of a numeral. -/
def Recordable : Instr → Prop
  | load target literal => target.index ≤ 9 ∧ ∃ number : Number, literal = number.literal
  | operate target left _ right => target.index ≤ 9 ∧ left.index ≤ 9 ∧ right.index ≤ 9

variable {instr : Instr}

theorem solid_parts (recordable : instr.Recordable) : ∀ part ∈ instr.parts, Text.Solid part := by
  have equals : Text.Solid ['='] := ⟨by decide, List.forall_mem_singleton.mpr (by decide)⟩
  cases instr with
  | load target literal =>
      obtain ⟨target_le, number, rfl⟩ := recordable
      simp only [parts, List.forall_mem_cons, number.toList_literal]
      exact ⟨Register.solid_text target_le, equals, number.solid_text, by simp⟩
  | operate target left operator right =>
      obtain ⟨target_le, left_le, right_le⟩ := recordable
      have sign : Text.Solid [operator.sign] :=
        ⟨by simp, List.forall_mem_singleton.mpr (by cases operator <;> decide)⟩
      simp only [parts, List.forall_mem_cons]
      exact ⟨Register.solid_text target_le, equals, Register.solid_text left_le, sign,
        Register.solid_text right_le, by simp⟩

/-- An instruction is read back from its text. -/
theorem decode_text (recordable : instr.Recordable) : decode instr.text = .ok instr := by
  rw [decode, toList_text, Text.fields_intercalate (solid_parts recordable)]
  cases instr with
  | load target literal =>
      obtain ⟨target_le, number, rfl⟩ := recordable
      simp [parts, ofFields, Register.ofText?_text target_le, number.toList_literal,
        number.ofText?_text]
  | operate target left operator right =>
      obtain ⟨target_le, left_le, right_le⟩ := recordable
      simp [parts, ofFields, Register.ofText?_text target_le, Register.ofText?_text left_le,
        Register.ofText?_text right_le, operator.ofText?_sign]

/-- The lines of a listing are the texts of its instructions. -/
theorem lines_flatMap {instrs : List Instr} (recordable : ∀ instr ∈ instrs, instr.Recordable) :
    Text.lines (instrs.flatMap fun instr => instr.line.toList) =
      instrs.map fun instr => instr.text.toList := by
  induction instrs with
  | nil => rfl
  | cons instr instrs ih =>
      rw [List.forall_mem_cons] at recordable
      have unbroken := Text.unbroken_intercalate (solid_parts recordable.1)
      rw [← toList_text] at unbroken
      have line_eq : instr.line.toList = instr.text.toList ++ ['\n'] := by simp [line]
      rw [List.flatMap_cons, line_eq, List.append_assoc, List.singleton_append,
        Text.lines_append_newline _ unbroken, ih recordable.2, List.map_cons]

end Instr

/-- The records of a text of instructions are their texts. -/
theorem Machine.records_eq {text : String} {instrs : List Instr}
    (recordable : ∀ instr ∈ instrs, instr.Recordable)
    (text_eq : text.toList = instrs.flatMap fun instr => instr.line.toList) :
    records text = instrs.map Instr.text := by
  rw [records, text_eq, Instr.lines_flatMap recordable, List.map_map]
  apply List.map_congr_left
  intro instr member
  exact String.ofList_toList

end ThreeAddress
