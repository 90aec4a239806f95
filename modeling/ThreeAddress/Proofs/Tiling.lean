import ThreeAddress.Proofs.Word
import ThreeAddress.Token.Cursor

/-!
# Texts as tilings

A text is cut from left to right into blanks, words and stray characters.  The cut is stated as
a relation between a text and its items, each with the byte at which it starts, and this
relation does not mention the scanner.  Every text has exactly one tiling, and the scanner
walks along it.
-/

namespace ThreeAddress

/-- What stands at one place of a text. -/
inductive Found where
  | word (content : Word)
  /-- A character at which no word starts. -/
  | stray (c : Char)
  /-- The end of the text. -/
  | finish

/-- The text of what was found. -/
def Found.text : Found → List Char
  | .word content => content.text
  | .stray c => [c]
  | .finish => []

/-- What stands in a text, and the byte at which it starts. -/
structure Item where
  found : Found
  offset : Nat

namespace Item

/-- The text of the item. -/
def text (item : Item) : List Char :=
  item.found.text

/-- The byte at which the item ends. -/
def stop (item : Item) : Nat :=
  item.offset + Text.byteSize item.text

/-- What a scan answers at the item. -/
def outcome (item : Item) : Except ScanError Token :=
  match item.found with
  | .word word => .ok ⟨word.symbol, item.offset, Text.byteSize word.text⟩
  | .stray c => .error (.unexpectedCharacter item.offset c)
  | .finish => .ok ⟨.endOfInput, item.offset, 0⟩

/-- The answer of a scan determines the item. -/
theorem eq_of_outcome_eq {item other : Item} (same : item.outcome = other.outcome) :
    item = other := by
  obtain ⟨found, offset⟩ := item
  obtain ⟨otherFound, otherOffset⟩ := other
  cases found with
  | word word =>
      cases otherFound with
      | word otherWord =>
          simp only [outcome, Except.ok.injEq, Token.mk.injEq] at same
          rw [Word.symbol_injective same.1, same.2.1]
      | stray c => simp [outcome] at same
      | finish => simp [outcome] at same
  | stray c =>
      cases otherFound with
      | word otherWord => simp [outcome] at same
      | stray otherChar =>
          simp only [outcome, Except.error.injEq, ScanError.unexpectedCharacter.injEq] at same
          rw [same.1, same.2]
      | finish => simp [outcome] at same
  | finish =>
      cases otherFound with
      | word otherWord =>
          simp only [outcome, Except.ok.injEq, Token.mk.injEq] at same
          exact absurd same.1.symm otherWord.symbol_ne_endOfInput
      | stray c => simp [outcome] at same
      | finish =>
          simp only [outcome, Except.ok.injEq, Token.mk.injEq] at same
          rw [same.2.1]

end Item

/-- The items of a text that starts at the given byte: after some blanks, the longest word that
starts there, or a character that starts none, and so on to the end. -/
inductive Tiled : Nat → List Char → List Item → Prop where
  | finish {start : Nat} {gap : List Char} (blank : ∀ c ∈ gap, Text.isBlank c = true) :
      Tiled start gap [⟨.finish, start + Text.byteSize gap⟩]
  | word {start : Nat} {gap rest : List Char} {word : Word} {items : List Item}
      (blank : ∀ c ∈ gap, Text.isBlank c = true)
      (longest : word.LongestIn (word.text ++ rest))
      (tail : Tiled (start + Text.byteSize gap + Text.byteSize word.text) rest items) :
      Tiled start (gap ++ (word.text ++ rest)) (⟨.word word, start + Text.byteSize gap⟩ :: items)
  | stray {start : Nat} {gap rest : List Char} {c : Char} {items : List Item}
      (blank : ∀ c ∈ gap, Text.isBlank c = true) (notBlank : Text.isBlank c = false)
      (noWord : ∀ word : Word, ¬ word.text <+: c :: rest)
      (tail : Tiled (start + Text.byteSize gap + c.utf8Size) rest items) :
      Tiled start (gap ++ c :: rest) (⟨.stray c, start + Text.byteSize gap⟩ :: items)

namespace Tiled

theorem ne_nil {start : Nat} {text : List Char} {items : List Item}
    (tiled : Tiled start text items) : items ≠ [] := by
  cases tiled <;> simp

theorem exists_finish {start : Nat} {text : List Char} {items : List Item}
    (tiled : Tiled start text items) : ∃ item ∈ items, item.found = .finish := by
  induction tiled with
  | finish blank => exact ⟨_, List.mem_singleton_self _, rfl⟩
  | word blank longest tail ih =>
      obtain ⟨item, member, last⟩ := ih
      exact ⟨item, List.mem_cons_of_mem _ member, last⟩
  | stray blank notBlank noWord tail ih =>
      obtain ⟨item, member, last⟩ := ih
      exact ⟨item, List.mem_cons_of_mem _ member, last⟩

/-- An item stands where it says, and nothing follows the end of the text. -/
theorem exists_split {start : Nat} {text : List Char} {items : List Item}
    (tiled : Tiled start text items) {item : Item} (member : item ∈ items) :
    ∃ before after, text = before ++ item.text ++ after ∧
      item.offset = start + Text.byteSize before ∧ (item.found = .finish → after = []) := by
  induction tiled with
  | @finish start gap blank =>
      rw [List.mem_singleton] at member
      subst member
      exact ⟨gap, [], by simp [Item.text, Found.text], rfl, fun _ => rfl⟩
  | @word start gap rest word items blank longest tail ih =>
      rcases List.mem_cons.mp member with rfl | member
      · exact ⟨gap, rest, by simp [Item.text, Found.text], rfl, by simp⟩
      · obtain ⟨before, after, split, offset_eq, last⟩ := ih member
        refine ⟨gap ++ (word.text ++ before), after, by simp [split], ?_, last⟩
        simp only [offset_eq, Text.byteSize_append]
        omega
  | @stray start gap rest c items blank notBlank noWord tail ih =>
      rcases List.mem_cons.mp member with rfl | member
      · exact ⟨gap, rest, by simp [Item.text, Found.text], rfl, by simp⟩
      · obtain ⟨before, after, split, offset_eq, last⟩ := ih member
        refine ⟨gap ++ c :: before, after, by simp [split], ?_, last⟩
        simp only [offset_eq, Text.byteSize_append, Text.byteSize_cons]
        omega

/-- The end of a text is found behind its last byte. -/
theorem offset_eq_of_finish {text : List Char} {items : List Item} (tiled : Tiled 0 text items)
    {item : Item} (member : item ∈ items) (last : item.found = .finish) :
    item.offset = Text.byteSize text := by
  obtain ⟨before, after, split, offset_eq, atEnd⟩ := tiled.exists_split member
  rw [split, offset_eq, atEnd last]
  simp [Item.text, Found.text, last]

end Tiled

/-! ## The scanner walks along the tiling -/

namespace Cursor

private theorem takeWhile_blank {gap : List Char} (tail : List Char)
    (blank : ∀ c ∈ gap, Text.isBlank c = true) (stops : tail.head?.all (!Text.isBlank ·) = true) :
    (gap ++ tail).takeWhile Text.isBlank = gap ∧ (gap ++ tail).dropWhile Text.isBlank = tail := by
  rw [List.takeWhile_append_of_pos blank, List.dropWhile_append_of_pos blank]
  cases tail with
  | nil => simp
  | cons c tail =>
      have notBlank : ¬ Text.isBlank c = true := by simpa using stops
      simp [List.takeWhile_cons_of_neg notBlank, List.dropWhile_cons_of_neg notBlank]

theorem next_of_word {cursor : Cursor} {gap rest : List Char} {word : Word}
    (rest_eq : cursor.rest = gap ++ (word.text ++ rest))
    (blank : ∀ c ∈ gap, Text.isBlank c = true) (longest : word.LongestIn (word.text ++ rest)) :
    cursor.next =
      (.ok ⟨word.symbol, cursor.stop + Text.byteSize gap, Text.byteSize word.text⟩,
        ⟨cursor.stop + Text.byteSize gap, word.text, rest, cursor.scans + 1⟩) := by
  obtain ⟨c, tail, text_eq, notBlank⟩ := word.exists_cons_not_blank
  have stops : (word.text ++ rest).head?.all (!Text.isBlank ·) = true := by
    simp [text_eq, notBlank]
  have read := Word.scan?_eq_some_iff.mpr ⟨word, rfl, rfl, rfl, longest⟩
  simp only [next, rest_eq, takeWhile_blank _ blank stops, read]

theorem next_of_stray {cursor : Cursor} {gap rest : List Char} {c : Char}
    (rest_eq : cursor.rest = gap ++ c :: rest) (blank : ∀ c ∈ gap, Text.isBlank c = true)
    (notBlank : Text.isBlank c = false) (noWord : ∀ word : Word, ¬ word.text <+: c :: rest) :
    cursor.next =
      (.error (.unexpectedCharacter (cursor.stop + Text.byteSize gap) c),
        ⟨cursor.stop + Text.byteSize gap, [c], rest, cursor.scans + 1⟩) := by
  have stops : (c :: rest).head?.all (!Text.isBlank ·) = true := by simp [notBlank]
  have failed := Word.scan?_eq_none_iff.mpr noWord
  simp only [next, rest_eq, takeWhile_blank _ blank stops, failed]

theorem next_of_blank {cursor : Cursor} (blank : ∀ c ∈ cursor.rest, Text.isBlank c = true) :
    cursor.next =
      (.ok ⟨.endOfInput, cursor.stop + Text.byteSize cursor.rest, 0⟩,
        ⟨cursor.stop + Text.byteSize cursor.rest, [], [], cursor.scans + 1⟩) := by
  have split := takeWhile_blank [] blank rfl
  rw [List.append_nil] at split
  simp [next, split, Symbol.scan?]

/-- One scan answers for the first item of the tiling and leaves the others. -/
theorem next_of_tiled (cursor : Cursor) {item : Item} {items : List Item}
    (tiled : Tiled cursor.stop cursor.rest (item :: items)) :
    ∃ rest, cursor.next = (item.outcome, ⟨item.offset, item.text, rest, cursor.scans + 1⟩) ∧
      ((item.found = .finish ∧ items = []) ∨
        (item.found ≠ .finish ∧ Tiled item.stop rest items)) := by
  generalize text_eq : cursor.rest = text at tiled
  cases tiled with
  | finish blank =>
      subst text_eq
      exact ⟨[], next_of_blank blank, .inl ⟨rfl, rfl⟩⟩
  | @word _ gap rest word _ blank longest tail =>
      exact ⟨rest, next_of_word text_eq blank longest, .inr ⟨by simp, tail⟩⟩
  | @stray _ gap rest c _ blank notBlank noWord tail =>
      refine ⟨rest, next_of_stray text_eq blank notBlank noWord, .inr ⟨by simp, ?_⟩⟩
      simpa [Item.stop, Item.text, Found.text] using tail

end Cursor

namespace Tiled

/-- Every text has a tiling. -/
theorem exists_of_text (start : Nat) (text : List Char) : ∃ items, Tiled start text items := by
  induction size : text.length using Nat.strongRecOn generalizing start text with
  | ind size ih =>
      subst size
      have split := List.takeWhile_append_dropWhile (p := Text.isBlank) (l := text)
      have blank : ∀ c ∈ text.takeWhile Text.isBlank, Text.isBlank c = true := by
        intro c member
        exact List.all_eq_true.mp List.all_takeWhile c member
      have notLonger := (List.dropWhile_sublist (l := text) Text.isBlank).length_le
      generalize text.takeWhile Text.isBlank = gap at split blank
      cases remaining : text.dropWhile Text.isBlank with
      | nil =>
          rw [remaining, List.append_nil] at split
          subst split
          exact ⟨_, .finish blank⟩
      | cons c tail =>
          have notBlank : Text.isBlank c = false := by
            have first := List.head?_dropWhile_not Text.isBlank text
            simpa [remaining] using first
          rw [remaining] at split notLonger
          cases read : Symbol.scan? (c :: tail) with
          | none =>
              obtain ⟨items, tiled⟩ :=
                ih tail.length notLonger (start + Text.byteSize gap + c.utf8Size) tail rfl
              subst split
              exact ⟨_, .stray blank notBlank (Word.scan?_eq_none_iff.mp read) tiled⟩
          | some result =>
              obtain ⟨symbol, lexeme, rest⟩ := result
              have shorter := Symbol.length_lt_of_scan? read
              obtain ⟨word, -, -, text_eq, longest⟩ := Word.scan?_eq_some_iff.mp read
              obtain ⟨items, tiled⟩ := ih rest.length (Nat.lt_of_lt_of_le shorter notLonger)
                (start + Text.byteSize gap + Text.byteSize word.text) rest rfl
              rw [text_eq] at split longest
              subst split
              exact ⟨_, .word blank longest tiled⟩

/-- A text has only one tiling. -/
theorem unique {start : Nat} {text : List Char} {items others : List Item}
    (tiled : Tiled start text items) (otherTiled : Tiled start text others) : items = others := by
  induction items generalizing start text others with
  | nil => exact absurd rfl tiled.ne_nil
  | cons item items ih =>
      cases others with
      | nil => exact absurd rfl otherTiled.ne_nil
      | cons other others =>
          obtain ⟨rest, scanned, following⟩ :=
            Cursor.next_of_tiled ⟨start, [], text, 0⟩ tiled
          obtain ⟨otherRest, otherScanned, otherFollowing⟩ :=
            Cursor.next_of_tiled ⟨start, [], text, 0⟩ otherTiled
          -- Both tilings are walked by the same scans, so they agree item by item.
          rw [scanned, Prod.mk.injEq] at otherScanned
          obtain rfl := Item.eq_of_outcome_eq otherScanned.1
          obtain rfl : rest = otherRest := by simpa using otherScanned.2
          rcases following with ⟨last, rfl⟩ | ⟨inside, tail⟩
          · rcases otherFollowing with ⟨-, rfl⟩ | ⟨inside, -⟩
            · rfl
            · exact absurd last inside
          · rcases otherFollowing with ⟨last, -⟩ | ⟨-, otherTail⟩
            · exact absurd last inside
            · rw [ih tail otherTail]

end Tiled

end ThreeAddress
