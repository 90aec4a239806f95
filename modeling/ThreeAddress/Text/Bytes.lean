/-!
# Texts as bytes

Positions in a text are counted in bytes of its UTF-8 form. This module measures and
encodes lists of characters, and says what stands at a byte of a text; it knows nothing of
tokens or records.
-/

namespace ThreeAddress.Text

/-- The number of bytes that a text takes. -/
def byteSize : List Char → Nat
  | [] => 0
  | c :: rest => c.utf8Size + byteSize rest

@[simp] theorem byteSize_nil : byteSize [] = 0 := rfl

@[simp] theorem byteSize_cons (c : Char) (rest : List Char) :
    byteSize (c :: rest) = c.utf8Size + byteSize rest := rfl

@[simp] theorem byteSize_append (first second : List Char) :
    byteSize (first ++ second) = byteSize first + byteSize second := by
  induction first with
  | nil => simp
  | cons c rest hypothesis => simp [hypothesis, Nat.add_assoc]

/-- Every character takes a byte or more. -/
theorem length_le_byteSize (text : List Char) : text.length ≤ byteSize text := by
  induction text with
  | nil => exact Nat.le_refl 0
  | cons c rest hypothesis =>
      have positive := c.utf8Size_pos
      simp only [List.length_cons, byteSize_cons]
      omega

/-- Two ways to cut a text at the same byte are the same. -/
theorem append_inj_of_byteSize {first second other rest : List Char}
    (same : first ++ second = other ++ rest) (size : byteSize first = byteSize other) :
    first = other ∧ second = rest := by
  induction first generalizing other with
  | nil =>
      cases other with
      | nil => exact ⟨rfl, same⟩
      | cons c other =>
          have positive := c.utf8Size_pos
          simp only [byteSize_nil, byteSize_cons] at size
          omega
  | cons c first ih =>
      cases other with
      | nil =>
          have positive := c.utf8Size_pos
          simp only [byteSize_nil, byteSize_cons] at size
          omega
      | cons d other =>
          obtain ⟨rfl, tail⟩ := List.cons.inj same
          simp only [byteSize_cons, Nat.add_left_cancel_iff] at size
          obtain ⟨rfl, rfl⟩ := ih tail size
          exact ⟨rfl, rfl⟩

/-- The bytes of a text. -/
def bytes (text : List Char) : List UInt8 :=
  text.flatMap String.utf8EncodeChar

@[simp] theorem bytes_nil : bytes [] = [] := rfl

@[simp] theorem bytes_append (first second : List Char) :
    bytes (first ++ second) = bytes first ++ bytes second := by
  simp [bytes]

@[simp] theorem length_bytes (text : List Char) : (bytes text).length = byteSize text := by
  induction text with
  | nil => rfl
  | cons c rest hypothesis =>
      simpa [bytes] using hypothesis

/-- The bytes of a text are those of its UTF-8 form. -/
theorem bytes_toList (text : String) : bytes text.toList = text.toUTF8.data.toList := by
  have encoded : text.toUTF8 = text.toList.utf8Encode := by
    rw [← String.toByteArray_ofList, String.ofList_toList]
    rfl
  rw [encoded, List.utf8Encode, List.toList_data_toByteArray]
  rfl

theorem byteSize_toList (text : String) : byteSize text.toList = text.utf8ByteSize := by
  rw [← length_bytes, bytes_toList]
  exact Array.length_toList

theorem utf8ByteSize_ofList (text : List Char) :
    (String.ofList text).utf8ByteSize = byteSize text := by
  rw [← byteSize_toList, String.toList_ofList]

/-- The front of a text is determined by its number of bytes. -/
theorem front_unique {text front back otherFront otherBack : String}
    (split : text = front ++ back) (otherSplit : text = otherFront ++ otherBack)
    (size : front.utf8ByteSize = otherFront.utf8ByteSize) : front = otherFront := by
  have same := congrArg String.toList (split.symm.trans otherSplit)
  rw [String.toList_append, String.toList_append] at same
  rw [← byteSize_toList, ← byteSize_toList] at size
  exact String.toList_inj.mp (append_inj_of_byteSize same size).1

/-- At the given byte, the text goes on with the lexeme. -/
def StartsAt (text : String) (offset : Nat) (lexeme : String) : Prop :=
  ∃ front back, text = front ++ lexeme ++ back ∧ front.utf8ByteSize = offset

/-- Behind the front of a text, the text goes on with what follows. -/
theorem startsAt_of_split {text : String} {front lexeme back : List Char}
    (split : text.toList = front ++ (lexeme ++ back)) :
    StartsAt text (byteSize front) (String.ofList lexeme) := by
  refine ⟨String.ofList front, String.ofList back, ?_, utf8ByteSize_ofList front⟩
  apply String.toList_inj.mp
  simp [split]

/-- What a text goes on with behind its front is in front of the rest. -/
theorem StartsAt.prefix_of_split {text : String} {front lexeme rest : List Char}
    (starts : StartsAt text (byteSize front) (String.ofList lexeme))
    (split : text.toList = front ++ rest) : lexeme <+: rest := by
  obtain ⟨before, after, text_eq, size⟩ := starts
  rw [text_eq, String.toList_append, String.toList_append, String.toList_ofList,
    List.append_assoc] at split
  rw [← byteSize_toList] at size
  exact ⟨after.toList, (append_inj_of_byteSize split size).2⟩

/-- A place has one character. -/
theorem StartsAt.head_unique {text : String} {offset : Nat} {c d : Char}
    {lexeme other : List Char} (starts : StartsAt text offset (String.ofList (c :: lexeme)))
    (otherStarts : StartsAt text offset (String.ofList (d :: other))) : c = d := by
  obtain ⟨front, back, split, size⟩ := starts
  obtain ⟨otherFront, otherBack, otherSplit, otherSize⟩ := otherStarts
  have same := congrArg String.toList (split.symm.trans otherSplit)
  simp only [String.toList_append, String.toList_ofList, List.append_assoc, List.cons_append]
    at same
  have sizes : byteSize front.toList = byteSize otherFront.toList := by
    rw [byteSize_toList, byteSize_toList, size, otherSize]
  exact (List.cons.inj (append_inj_of_byteSize same sizes).2).1

end ThreeAddress.Text
