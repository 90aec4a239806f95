import ThreeAddress.Proofs.Upcoming

/-!
# The tokens of a text

Reading tokens up to the end of a text leaves out nothing but blanks.  Every token stands where it
says and is as long as it says, only blanks lie before it, and a number is the longest that starts
at its place.  If the reading stops at a character, the same holds of the text before that
character, and no token starts with it.  All places are bytes of the whole text.
-/

namespace ThreeAddress

/-- From the first byte on and up to the last, the source reads as the given part. -/
structure Text.Slice (source : String) (first last : Nat) (part : String) : Prop where
  startsAt : StartsAt source first part
  last_eq : last = first + part.utf8ByteSize

/-- How a symbol is written. -/
def Symbol.text : Symbol → String
  | plus => "+"
  | times => "*"
  | semicolon => ";"
  | number literal => literal.text
  | endOfInput => ""

/-- The literal is that of a numeral, and no numeral at the given byte of the source is longer. -/
def Literal.LongestAt (literal : Literal) (source : String) (offset : Nat) : Prop :=
  ∃ numeral : Numeral, numeral.Proper ∧ literal = .ofNumeral numeral ∧
    ∀ other : Numeral, other.Proper → Text.StartsAt source offset (String.ofList other.text) →
      other.text.length ≤ numeral.text.length

/-- The source from a byte on, as tokens and the reason why there are no more of them: some blanks
and a token, over and over, until blanks lead to the end of the source or to a character with which
no token starts. -/
inductive Reading (source : String) : Nat → List Token → Option ScanError → Prop where
  | finish {start : Nat} {gap : String}
      (before : Text.Slice source start source.utf8ByteSize gap)
      (blank : ∀ c ∈ gap.toList, Text.isBlank c = true) :
      Reading source start [⟨.endOfInput, source.utf8ByteSize, 0⟩] none
  | stray {start offset : Nat} {gap : String} {found : Char}
      (before : Text.Slice source start offset gap)
      (blank : ∀ c ∈ gap.toList, Text.isBlank c = true)
      (here : Text.StartsAt source offset (String.singleton found))
      (notBlank : Text.isBlank found = false)
      (notSign : found ≠ '+' ∧ found ≠ '*' ∧ found ≠ ';') (notDigit : found.isDigit = false) :
      Reading source start [] (some (.unexpectedCharacter offset found))
  | token {start : Nat} {gap : String} {token : Token} {tokens : List Token}
      {stop : Option ScanError}
      (before : Text.Slice source start token.offset gap)
      (blank : ∀ c ∈ gap.toList, Text.isBlank c = true)
      (inside : token.symbol ≠ .endOfInput)
      (span : Text.Slice source token.offset (token.offset + token.length) token.symbol.text)
      (longest : ∀ literal, token.symbol = .number literal →
        literal.LongestAt source token.offset)
      (tail : Reading source (token.offset + token.length) tokens stop) :
      Reading source start (token :: tokens) stop

/-! ## The tokens of a tiling -/

/-- The tokens of items up to the end of the text, or up to the first item that is none. -/
def Item.tokens : List Item → List Token × Option ScanError
  | [] => ([], none)
  | item :: items =>
      match item.outcome with
      | .error cause => ([], some cause)
      | .ok token =>
          if token.symbol = .endOfInput then ([token], none)
          else (token :: (tokens items).1, (tokens items).2)

namespace Item

variable {item : Item} {items : List Item} {token : Token}

theorem tokens_of_error {cause : ScanError} (failed : item.outcome = .error cause) :
    tokens (item :: items) = ([], some cause) := by
  simp only [tokens, failed]

theorem tokens_of_last (answered : item.outcome = .ok token)
    (last : token.symbol = .endOfInput) : tokens (item :: items) = ([token], none) := by
  simp only [tokens, answered, last, if_true]

theorem tokens_of_ok (answered : item.outcome = .ok token)
    (inside : token.symbol ≠ .endOfInput) :
    tokens (item :: items) = (token :: (tokens items).1, (tokens items).2) := by
  simp only [tokens, answered, inside, if_false]

end Item

namespace Lexer

variable {lexer held after : Lexer} {token : Token} {cause : ScanError}

/-- All that reading the tokens does, without the reasons why it ends. -/
theorem tokens_eq (lexer : Lexer) :
    lexer.tokens =
      match peek lexer with
      | .error cause _ => ([], some cause)
      | .ok token held =>
          if token.symbol = .endOfInput then ([token], none)
          else
            match advance held with
            | .error cause _ => ([token], some cause)
            | .ok _ after => (token :: after.tokens.1, after.tokens.2) := by
  fun_cases tokens lexer with
  | case1 cause after failed => simp only [failed]
  | case2 token held peeked last => simp only [peeked, last, if_true]
  | case3 token held peeked inside cause after failed =>
      simp only [peeked, inside, if_false, failed]
  | case4 token held peeked inside value after advanced rest stop read =>
      simp only [peeked, inside, if_false, advanced, read]

theorem tokens_of_peek_error (failed : peek lexer = .error cause after) :
    lexer.tokens = ([], some cause) := by
  rw [tokens_eq, failed]

theorem tokens_of_last (peeked : peek lexer = .ok token held)
    (last : token.symbol = .endOfInput) : lexer.tokens = ([token], none) := by
  simp only [tokens_eq lexer, peeked, last, if_true]

theorem tokens_of_advance_error (peeked : peek lexer = .ok token held)
    (inside : token.symbol ≠ .endOfInput) (failed : advance held = .error cause after) :
    lexer.tokens = ([token], some cause) := by
  simp only [tokens_eq lexer, peeked, inside, if_false, failed]

theorem tokens_of_advance_ok (peeked : peek lexer = .ok token held)
    (inside : token.symbol ≠ .endOfInput) (advanced : advance held = .ok () after) :
    lexer.tokens = (token :: after.tokens.1, after.tokens.2) := by
  simp only [tokens_eq lexer, peeked, inside, if_false, advanced]

/-- A lexer reads the tokens of the items that it has ahead of it. -/
theorem tokens_of_upcoming {items : List Item} (ahead : lexer.upcoming = items.map Item.scan) :
    lexer.tokens = Item.tokens items := by
  induction items generalizing lexer with
  | nil =>
      obtain ⟨first, rest, nonempty⟩ := lexer.exists_upcoming_cons
      rw [nonempty] at ahead
      contradiction
  | cons item items ih =>
      rw [List.map_cons] at ahead
      cases outcome : item.outcome with
      | error cause =>
          obtain ⟨after, failed⟩ := peek_of_error ahead outcome
          rw [tokens_of_peek_error failed, Item.tokens_of_error outcome]
      | ok token =>
          obtain ⟨held, peeked, holds, same⟩ := peek_of_ok ahead outcome
          by_cases last : token.symbol = .endOfInput
          · rw [tokens_of_last peeked last, Item.tokens_of_last outcome last]
          · obtain ⟨second, others, rest_eq⟩ := exists_second holds last same
            rw [rest_eq] at same
            rw [Item.tokens_of_ok outcome last]
            cases next : second.outcome with
            | error cause =>
                obtain ⟨after, failed⟩ := advance_of_error holds same next
                obtain ⟨nextItem, rest, rfl, rfl, -⟩ := List.map_eq_cons_iff.mp rest_eq
                rw [tokens_of_advance_error peeked last failed, Item.tokens_of_error next]
            | ok following =>
                obtain ⟨after, advanced, -, remaining⟩ := advance_of_ok holds same next
                rw [tokens_of_advance_ok peeked last advanced, ih (remaining.trans rest_eq.symm)]

/-- A fresh lexer reads the tokens of the tiling of its text. -/
theorem tokens_ofString {text : String} {items : List Item} (tiled : Tiled 0 text.toList items) :
    (ofString text).tokens = Item.tokens items :=
  tokens_of_upcoming (upcoming_ofString tiled)

end Lexer

/-! ## Tilings are readings -/

theorem Word.text_symbol (word : Word) : word.symbol.text = String.ofList word.text := by
  cases word <;> rfl

/-- A part of a source that follows its front. -/
theorem Text.slice_of_split {source : String} {front part back : List Char}
    (split : source.toList = front ++ (part ++ back)) :
    Slice source (byteSize front) (byteSize front + byteSize part) (String.ofList part) := by
  constructor
  · exact startsAt_of_split split
  · rw [utf8ByteSize_ofList]

/-- Where no word starts, there is neither a sign nor a digit. -/
theorem Word.not_sign_or_digit {c : Char} {rest : List Char}
    (noWord : ∀ word : Word, ¬ word.text <+: c :: rest) :
    (c ≠ '+' ∧ c ≠ '*' ∧ c ≠ ';') ∧ c.isDigit = false := by
  have starts : ∀ word : Word, word.text ≠ [c] := by
    intro word text_eq
    exact noWord word (text_eq ▸ ⟨rest, rfl⟩)
  refine ⟨⟨?_, ?_, ?_⟩, ?_⟩
  · rintro rfl
    exact starts .plus rfl
  · rintro rfl
    exact starts .times rfl
  · rintro rfl
    exact starts .semicolon rfl
  · rw [Bool.eq_false_iff]
    intro isDigit
    have proper : Numeral.Proper ⟨[c], []⟩ := ⟨by simp, by simpa using isDigit, by simp⟩
    exact starts (.number ⟨_, proper⟩) rfl

/-- A number that is the longest among the words is the longest at its place in the source. -/
theorem Number.longestAt {number : Number} {source : String} {front rest : List Char}
    (split : source.toList = front ++ (number.text ++ rest))
    (longest : (Word.number number).LongestIn (number.text ++ rest)) :
    number.literal.LongestAt source (Text.byteSize front) := by
  refine ⟨number.val, number.property, rfl, ?_⟩
  intro other proper starts
  exact Word.longestIn_number_iff.mp longest other proper (starts.prefix_of_split split)

/-- The tokens of a tiling of the rest of a source are a reading of that rest. -/
theorem Tiled.reading {source : String} {start : Nat} {text : List Char} {items : List Item}
    (tiled : Tiled start text items) :
    ∀ front, source.toList = front ++ text → start = Text.byteSize front →
      Reading source start (Item.tokens items).1 (Item.tokens items).2 := by
  induction tiled with
  | @finish start gap blank =>
      rintro front split rfl
      have slice := @Text.slice_of_split source front gap [] (by rw [split, List.append_nil])
      have size : source.utf8ByteSize = Text.byteSize front + Text.byteSize gap := by
        rw [← Text.byteSize_toList, split, Text.byteSize_append]
      rw [Item.tokens_of_last rfl rfl, ← size]
      rw [← size] at slice
      exact .finish slice (by simpa using blank)
  | @word start gap rest word items blank longest tail ih =>
      rintro front split rfl
      have place : Text.byteSize front + Text.byteSize gap = Text.byteSize (front ++ gap) :=
        (Text.byteSize_append front gap).symm
      have wordSplit : source.toList = front ++ gap ++ (word.text ++ rest) := by
        rw [split, List.append_assoc]
      rw [Item.tokens_of_ok rfl word.symbol_ne_endOfInput]
      refine .token (Text.slice_of_split split) (by simpa using blank) word.symbol_ne_endOfInput
        ?_ ?_ ?_
      · simp only [place, word.text_symbol]
        exact Text.slice_of_split wordSplit
      · intro literal number_eq
        cases word with
        | number number =>
            cases number_eq
            simp only [place]
            exact number.longestAt wordSplit longest
        | plus | times | semicolon => contradiction
      · apply ih (front ++ gap ++ word.text)
        · rw [wordSplit, List.append_assoc (front ++ gap)]
        · rw [place, Text.byteSize_append (front ++ gap)]
  | @stray start gap rest c items blank notBlank noWord tail ih =>
      rintro front split rfl
      obtain ⟨notSign, notDigit⟩ := Word.not_sign_or_digit noWord
      have here : source.toList = front ++ gap ++ ([c] ++ rest) := by
        rw [split, List.append_assoc]
        rfl
      have starts := Text.startsAt_of_split here
      rw [Text.byteSize_append] at starts
      exact .stray (Text.slice_of_split split) (by simpa using blank) starts notBlank notSign
        notDigit

/-- The tokens of a text, read one after the other, tile it: up to its end, or up to a character
with which no token starts. -/
theorem tokens_tile_text (text : String) :
    Reading text 0 (Lexer.ofString text).tokens.1 (Lexer.ofString text).tokens.2 := by
  obtain ⟨items, tiled⟩ := Tiled.exists_of_text 0 text.toList
  rw [Lexer.tokens_ofString tiled]
  exact tiled.reading [] rfl rfl

end ThreeAddress
