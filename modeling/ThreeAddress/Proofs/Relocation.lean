import ThreeAddress.Proofs.Exhaustion

/-!
# Texts at another place

The places in a text are numbers that code generation hands on and never looks at.  If the items of
a text move, the plan keeps its code, and its error moves along with the item that it reports.
-/

namespace ThreeAddress

/-! ## Moving places -/

section Move

variable (move : Nat → Nat)

def ScanError.relocate : ScanError → ScanError
  | unexpectedCharacter offset found => unexpectedCharacter (move offset) found

def GrammarError.relocate : GrammarError → GrammarError
  | expectedNumber offset lexeme => expectedNumber (move offset) lexeme
  | expectedTerminator offset lexeme => expectedTerminator (move offset) lexeme
  | unexpectedEnd offset => unexpectedEnd (move offset)

/-- The error with its place moved.  Errors of other kinds name no place in the source. -/
def Error.relocate : Error → Error
  | scan cause => scan (cause.relocate move)
  | grammar cause => grammar (cause.relocate move)
  | cause => cause

def Item.relocate (item : Item) : Item :=
  ⟨item.found, move item.offset⟩

def Course.relocate : Course → Course
  | goOn next => goOn next
  | stop result => stop (result.mapError (Error.relocate move))

def Plan.relocate (plan : Plan) : Plan :=
  ⟨plan.code, plan.result.mapError (Error.relocate move)⟩

end Move

/-! ## Plans do not depend on places -/

variable {move : Nat → Nat}

/-- At a moved item, a phase emits the same code and takes the moved course. -/
theorem Phase.react_relocate (phase : Phase) (item : Item) :
    phase.react (item.relocate move).scan =
      ((phase.react item.scan).1, (phase.react item.scan).2.relocate move) := by
  obtain ⟨found, offset⟩ := item
  cases found with
  | stray c => rfl
  | finish => cases phase <;> rfl
  | word word => cases phase <;> cases word <;> rfl

namespace Plan

theorem relocate_precededBy (plan : Plan) (code : StackCode) :
    (plan.precededBy code).relocate move = (plan.relocate move).precededBy code := rfl

theorem ofScans_relocate (phase : Phase) (items : List Item) :
    ofScans phase ((items.map (Item.relocate move)).map Item.scan) =
      (ofScans phase (items.map Item.scan)).relocate move := by
  induction items generalizing phase with
  | nil => rfl
  | cons item items ih =>
      have moved := @Phase.react_relocate move phase item
      rw [List.map_cons, List.map_cons, List.map_cons]
      cases reacted : phase.react item.scan with
      | mk code course =>
        rw [reacted] at moved
        cases course with
        | goOn next =>
            rw [ofScans_of_goOn moved, ofScans_of_goOn reacted, relocate_precededBy, ih]
        | stop result =>
            rw [ofScans_of_stop moved, ofScans_of_stop reacted]
            rfl

/-- A lack of registers is noticed at the same operation, wherever the text stands. -/
theorem limited_relocate (plan : Plan) (capacity before : Nat) :
    (plan.relocate move).limited capacity before =
      (plan.limited capacity before).relocate move := by
  by_cases fits : plan.code.peak before ≤ capacity
  · simp [limited, relocate, fits]
  · simp only [limited, relocate, fits, if_false]
    rfl

end Plan

/-! ## Tilings at another place -/

namespace Tiled

variable {start : Nat} {text : List Char} {items : List Item}

/-- The same text further behind has the same items further behind. -/
theorem relocate (tiled : Tiled start text items) (distance : Nat) :
    Tiled (start + distance) text (items.map (Item.relocate (· + distance))) := by
  have place : ∀ (start : Nat) (gap : List Char),
      start + Text.byteSize gap + distance = start + distance + Text.byteSize gap := by
    intro start gap
    exact Nat.add_right_comm ..
  induction tiled with
  | @finish start gap blank =>
      simp only [List.map_cons, List.map_nil, Item.relocate, place]
      exact .finish blank
  | @word start gap rest word items blank longest tail ih =>
      simp only [List.map_cons, Item.relocate, place]
      rw [Nat.add_right_comm, place] at ih
      exact .word blank longest ih
  | @stray start gap rest c items blank notBlank noWord tail ih =>
      simp only [List.map_cons, Item.relocate, place]
      rw [Nat.add_right_comm, place] at ih
      exact .stray blank notBlank noWord ih

/-- Blanks in front of a text add no item. -/
theorem blank_append {gap : List Char} (blank : ∀ c ∈ gap, Text.isBlank c = true)
    (tiled : Tiled (start + Text.byteSize gap) text items) : Tiled start (gap ++ text) items := by
  have place : ∀ inner : List Char,
      start + Text.byteSize gap + Text.byteSize inner = start + Text.byteSize (gap ++ inner) := by
    intro inner
    rw [Text.byteSize_append, Nat.add_assoc]
  generalize begin_eq : start + Text.byteSize gap = begin at tiled
  cases tiled with
  | @finish _ inner innerBlank =>
      rw [← begin_eq, place]
      exact .finish (List.forall_mem_append.mpr ⟨blank, innerBlank⟩)
  | @word _ inner rest word items innerBlank longest tail =>
      rw [← begin_eq, place] at tail ⊢
      rw [← List.append_assoc]
      exact .word (List.forall_mem_append.mpr ⟨blank, innerBlank⟩) longest tail
  | @stray _ inner rest c items innerBlank notBlank noWord tail =>
      rw [← begin_eq, place] at tail ⊢
      rw [← List.append_assoc]
      exact .stray (List.forall_mem_append.mpr ⟨blank, innerBlank⟩) notBlank noWord tail

end Tiled

end ThreeAddress
