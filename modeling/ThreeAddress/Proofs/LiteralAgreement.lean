import ThreeAddress.Proofs.RoundTrip
import ThreeAddress.Proofs.ScanSequence

/-!
# Two readers of one grammar of numbers

A source and a record both contain numbers.  In a source the longest numeral at the current place is
taken, and in a record a field is taken only if it is a numeral as a whole.  The two readers follow
one grammar: a field is taken exactly if the longest numeral at its start is all of it, and both
then read the same literal.  A number that was found in a source therefore keeps its value when it
is written into a record and loaded from there.
-/

namespace ThreeAddress

namespace Literal

variable {text rest : List Char} {literal : Literal}

/-- A literal is read exactly at a text that starts with a digit. -/
theorem exists_scan?_iff :
    (∃ literal rest, scan? text = some (literal, rest)) ↔
      ∃ digit, text.head? = some digit ∧ digit.isDigit = true := by
  constructor
  · rintro ⟨literal, rest, read⟩
    obtain ⟨⟨numeral, remaining⟩, scanned, -⟩ := Option.map_eq_some_iff.mp read
    obtain ⟨proper, text_eq, -⟩ := Numeral.scan?_eq_some_iff.mp scanned
    obtain ⟨digit, tail, numeral_eq, isDigit⟩ := proper.exists_digit_cons
    refine ⟨digit, ?_, isDigit⟩
    rw [text_eq, numeral_eq]
    rfl
  · rintro ⟨digit, first, isDigit⟩
    obtain ⟨tail, rfl⟩ := List.head?_eq_some_iff.mp first
    obtain ⟨numeral, rest, scanned⟩ := Numeral.exists_scan?_of_digit isDigit tail
    refine ⟨ofNumeral numeral, rest, ?_⟩
    rw [scan?, scanned]
    rfl

/-- The literal that is read is that of the longest numeral. -/
theorem scan?_eq_some_iff :
    scan? text = some (literal, rest) ↔
      ∃ numeral : Numeral, numeral.Proper ∧ text = numeral.text ++ rest ∧
        numeral.LongestIn text ∧ literal = ofNumeral numeral := by
  constructor
  · intro read
    obtain ⟨⟨numeral, remaining⟩, scanned, pair_eq⟩ := Option.map_eq_some_iff.mp read
    cases pair_eq
    obtain ⟨proper, text_eq, longest⟩ := Numeral.scan?_eq_some_iff.mp scanned
    exact ⟨numeral, proper, text_eq, longest, rfl⟩
  · rintro ⟨numeral, proper, text_eq, longest, rfl⟩
    rw [scan?, Numeral.scan?_eq_some_iff.mpr ⟨proper, text_eq, longest⟩]
    rfl

/-- A text is read as a whole exactly if the longest literal at its start is all of it. -/
theorem ofText?_eq_some_iff_scan? :
    ofText? text = some literal ↔
      ∃ rest, scan? text = some (literal, rest) ∧ literal.text.toList = text := by
  rw [ofText?_eq_some_iff]
  constructor
  · rintro ⟨number, rfl, rfl⟩
    have longest : number.val.LongestIn number.text := by
      intro other proper starts
      exact starts.length_le
    refine ⟨[], scan?_eq_some_iff.mpr ?_, number.toList_literal⟩
    exact ⟨number.val, number.property, (List.append_nil _).symm, longest, rfl⟩
  · rintro ⟨rest, read, whole⟩
    obtain ⟨numeral, proper, -, -, rfl⟩ := scan?_eq_some_iff.mp read
    refine ⟨⟨numeral, proper⟩, ?_, rfl⟩
    rw [← whole]
    exact Number.toList_literal ⟨numeral, proper⟩

end Literal

/-! ## Numbers in records -/

namespace Instr

variable {line : String} {name field : List Char} {target : Register}

/-- A record with a register, an equals sign and a third field is a load exactly if that field is
read as a whole. -/
theorem decode_load_iff (cut : Text.Runs line.toList [name, ['='], field])
    (named : target.NamedBy name) {instr : Instr} :
    decode line = .ok instr ↔
      ∃ literal, Literal.ofText? field = some literal ∧ instr = .load target literal := by
  rw [decode, cut.fields_eq, ofFields, named.ofText?_eq]
  cases Literal.ofText? field with
  | none => simp
  | some literal => simp [eq_comm]

end Instr

/-! ## Numbers in sources -/

namespace Lexer

variable {source : String} {calls : List Call} {token : Token} {literal : Literal}

/-- Whatever a lexer was asked before, a number that it holds is one of the grammar. -/
theorem exists_number_of_held
    (held : (performCalls answer calls (ofString source)).2.lookahead = some token)
    (number_eq : token.symbol = .number literal) : ∃ number : Number, literal = number.literal := by
  obtain ⟨items, tiled⟩ := Tiled.exists_of_text 0 source.toList
  obtain ⟨-, stands⟩ := performCalls_agree (fun call _ _ => answer_agrees tiled call) calls
    (standsAt_start source items)
  obtain ⟨scanNumber, -, -, outcome⟩ := stands.exists_held held
  cases found : (itemAt source.toList items scanNumber).found with
  | word word =>
      simp only [Item.outcome, found, Except.ok.injEq] at outcome
      subst outcome
      cases word with
      | number number =>
          cases number_eq
          exact ⟨number, rfl⟩
      | plus | times | semicolon => contradiction
  | stray c => simp [Item.outcome, found] at outcome
  | finish =>
      simp only [Item.outcome, found, Except.ok.injEq] at outcome
      subst outcome
      contradiction

end Lexer

namespace Machine

/-- Running the record of a number loads the value of the number. -/
theorem run_load {V : Type} [Arithmetic V] (number : Number) {target : Register}
    (small : target.index ≤ 9) {logged : Logged (Machine V)}
    (inside : target.index < logged.state.registers.size) :
    ∃ value after, run (Instr.load target number.literal).line logged = .ok value after ∧
      after.state.registers[target.index]? = some (Arithmetic.ofLiteral number.literal) := by
  have recordable : ∀ instr ∈ [Instr.load target number.literal], instr.Recordable :=
    List.forall_mem_singleton.mpr ⟨small, number, rfl⟩
  have executed : execAll [Instr.load target number.literal] logged.state = .ok ()
      ⟨logged.state.registers.setIfInBounds target.index (Arithmetic.ofLiteral number.literal)⟩ :=
    execAll_cons_ok_iff.mpr ⟨_, exec_load inside number.literal _, rfl⟩
  have kept : 0 <
      (logged.state.registers.setIfInBounds target.index
        (Arithmetic.ofLiteral number.literal)).size := by
    rw [Array.size_setIfInBounds]
    exact Nat.zero_lt_of_lt inside
  have text_eq : (Instr.load target number.literal).line.toList =
      [Instr.load target number.literal].flatMap fun instr => instr.line.toList :=
    (List.flatMap_singleton _ _).symm
  obtain ⟨events, ran⟩ := run_of_execAll_ok recordable text_eq executed
    (Array.getElem?_eq_getElem kept)
  exact ⟨_, _, ran, Array.getElem?_setIfInBounds_self_of_lt inside⟩

end Machine

/-- A literal is read exactly at a text that starts with a digit, and it is then that of the longest
numeral at the start of the text.  The third field of a record with a register and an equals sign is
loaded as a literal if and only if that literal is read at the start of the field and its text is
the whole field.  So the value of a number that a lexer holds, whatever the lexer was asked before,
is the value that a machine loads from the record of the number. -/
theorem literal_readers_agree :
    (∀ text : String, (∃ literal rest, Literal.scan? text.toList = some (literal, rest)) ↔
      ∃ digit, text.toList.head? = some digit ∧ digit.isDigit = true) ∧
    (∀ (text : String) literal rest, Literal.scan? text.toList = some (literal, rest) ↔
      ∃ numeral : Numeral, numeral.Proper ∧ text.toList = numeral.text ++ rest ∧
        numeral.LongestIn text.toList ∧ literal = .ofNumeral numeral) ∧
    (∀ (line field : String) name (target : Register),
      Text.Runs line.toList [name, ['='], field.toList] → target.NamedBy name →
      ∀ literal, Instr.decode line = .ok (.load target literal) ↔
        ∃ rest, Literal.scan? field.toList = some (literal, rest) ∧ literal.text = field) ∧
    ∀ source calls token literal,
      (performCalls Lexer.answer calls (Lexer.ofString source)).2.lookahead = some token →
      token.symbol = .number literal →
      ∀ (target : Register) (logged : Logged (Machine Float)), target.index ≤ 9 →
        target.index < logged.state.registers.size →
        ∃ value after, Machine.run (Instr.load target literal).line logged = .ok value after ∧
          after.state.registers[target.index]? = some literal.value := by
  refine ⟨?_, ?_, ?_, ?_⟩
  · intro text
    exact Literal.exists_scan?_iff
  · intro text literal rest
    exact Literal.scan?_eq_some_iff
  · intro line field name target cut named literal
    rw [Instr.decode_load_iff cut named, ← String.toList_inj]
    simp [Literal.ofText?_eq_some_iff_scan?]
  · intro source calls token literal held number_eq target logged small inside
    obtain ⟨number, rfl⟩ := Lexer.exists_number_of_held held number_eq
    exact Machine.run_load number small inside

theorem literal_readers_agree_sample :
    Literal.scan? "7.".toList = some (.ofNumeral ⟨['7'], []⟩, ['.']) ∧
    (∀ literal, Instr.decode "x0 =\t7." ≠ .ok (.load ⟨0⟩ literal)) ∧
    ∃ (value : Float) (after : Logged (Machine Float)),
      Machine.run "t3 = 2.5\n" (.fresh (.ofSize 4)) = .ok value after ∧
        after.state.registers[3]? = some (Numeral.value ⟨['2'], ['5']⟩) := by
  obtain ⟨-, -, fields, numbers⟩ := literal_readers_agree
  refine ⟨rfl, ?_, ?_⟩
  · intro literal decoded
    have cut : Text.Runs "x0 =\t7.".toList [['x', '0'], ['='], "7.".toList] :=
      Text.runs_fields "x0 =\t7.".toList
    have named : Register.NamedBy ⟨0⟩ ['x', '0'] := ⟨'x', by decide, by decide, rfl⟩
    obtain ⟨rest, read, whole⟩ := (fields _ _ _ _ cut named literal).mp decoded
    cases read
    contradiction
  · exact numbers "1 + 2.5" [.advance, .advance] ⟨.number (.ofNumeral ⟨['2'], ['5']⟩), 4, 3⟩ _
      rfl rfl ⟨3⟩ _ (by decide) (by decide)

end ThreeAddress
