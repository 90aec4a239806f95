import ThreeAddress.Generator.Run
import ThreeAddress.Proofs.StackCode
import ThreeAddress.Proofs.Upcoming

/-!
# Code generation as a plan

What code generation does depends on the scans ahead alone: they determine the stack code and
the result that follows it.  The pool and the sink only decide how far the code gets.  This module
defines the plan, shows that its code keeps stack discipline, and says what it means to execute it.
-/

namespace ThreeAddress

/-- How much of a statement has been read, and which values wait for a right operand.  After a
number the product that waits is multiplied as soon as the scan behind the number succeeds. -/
inductive Phase where
  | boundary
  | operand (sum product : Bool)
  | operator (sum product : Bool)
deriving DecidableEq

/-- What follows one scan. -/
inductive Course where
  | goOn (next : Phase)
  | stop (result : Except Error Unit)

/-- Work the top into the value below it, if there is one. -/
def foldIf (waits : Bool) (operator : Operator) : StackCode :=
  if waits then [.fold operator] else []

@[simp] theorem foldIf_false (operator : Operator) : foldIf false operator = [] := rfl

@[simp] theorem foldIf_true (operator : Operator) : foldIf true operator = [.fold operator] := rfl

namespace Phase

/-- Where a number has to follow. -/
def readOperand (sum product : Bool) (scan : Scan) (token : Token) : StackCode × Course :=
  match token.symbol with
  | .number literal => ([.push literal], .goOn (.operator sum product))
  | .endOfInput => ([], .stop (.error (.grammar (.unexpectedEnd token.offset))))
  | _ =>
      ([], .stop (.error (.grammar (.expectedNumber token.offset (String.ofList scan.lexeme)))))

/-- Where an operator or the end of the statement has to follow. -/
def readOperator (sum product : Bool) (scan : Scan) (token : Token) : StackCode × Course :=
  match token.symbol with
  | .times => (foldIf product .multiply, .goOn (.operand sum true))
  | .plus => (foldIf product .multiply ++ foldIf sum .add, .goOn (.operand true false))
  | .semicolon => (foldIf product .multiply ++ (foldIf sum .add ++ [.drop]), .goOn .boundary)
  | _ =>
      (foldIf product .multiply ++ (foldIf sum .add ++ [.drop]),
        .stop (.error (.grammar (.expectedTerminator scan.offset (String.ofList scan.lexeme)))))

/-- The stack code of one scan, and what follows. -/
def react (phase : Phase) (scan : Scan) : StackCode × Course :=
  match scan.outcome with
  | .error cause => ([], .stop (.error (.scan cause)))
  | .ok token =>
      match phase with
      | .boundary =>
          if token.symbol = .endOfInput then ([], .stop (.ok ()))
          else readOperand false false scan token
      | .operand sum product => readOperand sum product scan token
      | .operator sum product => readOperator sum product scan token

end Phase

/-- Stack code, and the result once all of it is performed. -/
structure Plan where
  code : StackCode
  result : Except Error Unit

namespace Plan

/-- Code in front of a plan. -/
def precededBy (plan : Plan) (code : StackCode) : Plan :=
  ⟨code ++ plan.code, plan.result⟩

@[simp] theorem precededBy_precededBy (plan : Plan) (first second : StackCode) :
    (plan.precededBy second).precededBy first = plan.precededBy (first ++ second) := by
  simp [precededBy]

/-- The plan of code generation for the scans ahead. -/
def ofScans : Phase → List Scan → Plan
  | _, [] => ⟨[], .ok ()⟩
  | phase, scan :: scans =>
      match phase.react scan with
      | (code, .goOn next) => (ofScans next scans).precededBy code
      | (code, .stop result) => ⟨code, result⟩

theorem ofScans_of_goOn {phase next : Phase} {scan : Scan} {scans : List Scan}
    {code : StackCode} (reacted : phase.react scan = (code, .goOn next)) :
    ofScans phase (scan :: scans) = (ofScans next scans).precededBy code := by
  simp [ofScans, reacted]

theorem ofScans_of_stop {phase : Phase} {scan : Scan} {scans : List Scan} {code : StackCode}
    {result : Except Error Unit} (reacted : phase.react scan = (code, .stop result)) :
    ofScans phase (scan :: scans) = ⟨code, result⟩ := by
  simp [ofScans, reacted]

theorem ofScans_of_error {phase : Phase} {scan : Scan} {scans : List Scan} {cause : ScanError}
    (failed : scan.outcome = .error cause) :
    ofScans phase (scan :: scans) = ⟨[], .error (.scan cause)⟩ := by
  simp [ofScans, Phase.react, failed]

/-- Before a statement and where its first number has to follow, only the end of the text is
treated differently. -/
theorem ofScans_boundary {scan : Scan} {scans : List Scan} {token : Token}
    (answered : scan.outcome = .ok token) (inside : token.symbol ≠ .endOfInput) :
    ofScans .boundary (scan :: scans) = ofScans (.operand false false) (scan :: scans) := by
  simp [ofScans, Phase.react, answered, inside]

/-- The pending product is multiplied before the token behind it is looked at. -/
theorem ofScans_operator {sum product : Bool} {scan : Scan} {scans : List Scan} {token : Token}
    (answered : scan.outcome = .ok token) :
    ofScans (.operator sum product) (scan :: scans) =
      (ofScans (.operator sum false) (scan :: scans)).precededBy (foldIf product .multiply) := by
  obtain ⟨symbol, offset, length⟩ := token
  cases symbol <;>
    simp [ofScans, Phase.react, answered, Phase.readOperator, precededBy, foldIf]

end Plan

/-! ## Plans keep stack discipline -/

namespace Phase

/-- The number of values on the stack. -/
def depth : Phase → Nat
  | boundary => 0
  | operand sum product => sum.toNat + product.toNat
  | operator sum product => sum.toNat + product.toNat + 1

/-- The code of one scan finds its operands, leaves the values of the next phase and asks for at
most three registers above the base. -/
theorem react_spec (base : Nat) (phase : Phase) (scan : Scan) :
    (phase.react scan).1.Disciplined (base + phase.depth) ∧
      (phase.react scan).1.peak (base + phase.depth) ≤ base + 3 ∧
      ∀ next, (phase.react scan).2 = .goOn next →
        (phase.react scan).1.depth (base + phase.depth) = base + next.depth := by
  cases answered : scan.outcome with
  | error cause => simp [react, answered, StackCode.Disciplined, StackCode.peak]
  | ok token =>
      obtain ⟨symbol, offset, length⟩ := token
      cases phase with
      | boundary =>
          cases symbol <;>
            simp [react, answered, readOperand, depth, StackCode.Disciplined, StackOp.Allowed,
              StackCode.peak, StackOp.reach, StackCode.depth, StackOp.depth]
      | operand sum product =>
          cases symbol <;> cases sum <;> cases product <;>
            simp [react, answered, readOperand, depth, StackCode.Disciplined, StackOp.Allowed,
              StackCode.peak, StackOp.reach, StackCode.depth, StackOp.depth]
      | operator sum product =>
          cases symbol <;> cases sum <;> cases product <;>
            simp [react, answered, readOperator, depth, StackCode.Disciplined, StackOp.Allowed,
              StackCode.peak, StackOp.reach, StackCode.depth, StackOp.depth]

end Phase

namespace Plan

/-- A plan never lacks an operand and asks for at most three registers above its base. -/
theorem ofScans_spec (base : Nat) (phase : Phase) (scans : List Scan) :
    (ofScans phase scans).code.Disciplined (base + phase.depth) ∧
      (ofScans phase scans).code.peak (base + phase.depth) ≤ base + 3 := by
  induction scans generalizing phase with
  | nil => exact ⟨trivial, Nat.zero_le _⟩
  | cons scan scans ih =>
      obtain ⟨disciplined, bounded, following⟩ := phase.react_spec base scan
      cases reacted : phase.react scan with
      | mk code course =>
        rw [reacted] at disciplined bounded following
        cases course with
        | stop result =>
            rw [ofScans_of_stop reacted]
            exact ⟨disciplined, bounded⟩
        | goOn next =>
            rw [ofScans_of_goOn reacted]
            simp only [precededBy, StackCode.disciplined_append, StackCode.peak_append,
              following next rfl]
            exact ⟨⟨disciplined, (ih next).1⟩, Nat.max_le.mpr ⟨bounded, (ih next).2⟩⟩

end Plan

namespace Workbench

variable {σ : Type} [Sink σ]

/-- The end of code generation. -/
def conclude (result : Except Error Unit) : EStateM Error (Workbench σ) Unit := fun bench =>
  match result with
  | .ok _ => .ok () ⟨bench.pool, bench.sink, bench.events.push (.compiled bench.pool.stats)⟩
  | .error cause => .error cause bench

/-- Perform the code of a plan and conclude with its result. -/
def execute (plan : Plan) : EStateM Error (Workbench σ) Unit := do
  performAll plan.code
  conclude plan.result

theorem performAll_append (first second : StackCode) (bench : Workbench σ) :
    performAll (first ++ second) bench = (do performAll first; performAll second) bench := by
  induction first generalizing bench with
  | nil => rfl
  | cons op first ih =>
      simp only [List.cons_append, performAll, bind, EStateM.bind]
      cases perform op bench with
      | ok value between => exact ih between
      | error cause between => rfl

theorem execute_precededBy (plan : Plan) (code : StackCode) (bench : Workbench σ) :
    execute (plan.precededBy code) bench = (do performAll code; execute plan) bench := by
  simp only [execute, Plan.precededBy, bind, EStateM.bind, performAll_append]
  cases performAll code bench <;> rfl

end Workbench

end ThreeAddress
